import LexBridge.Kind.Basic

/-!
# Scope selectors of kinds

Themes are keyed on dotted scope selectors. This is the table from kinds to selectors. Kinds that
it leaves out (text, white space, punctuation, plain names) keep the default look of an editor.
Several kinds may share a selector.

## Main definitions

* `Kind.selector?`: the selector of a kind, if it has one.
-/

namespace LexBridge.Kind

/-- The scope selector of a kind, `none` for the kinds without a look of their own. -/
def selector? : Kind → Option Text
  | escape => some (Text.of "constant.character.escape")
  | error => some (Text.of "invalid.illegal")
  | keyword => some (Text.of "keyword")
  | keywordConstant => some (Text.of "constant.language")
  | keywordDeclaration => some (Text.of "storage.type")
  | keywordNamespace => some (Text.of "keyword.control.import")
  | keywordPseudo => some (Text.of "keyword.other")
  | keywordReserved => some (Text.of "keyword.control")
  | keywordType => some (Text.of "storage.type")
  | nameAttribute => some (Text.of "entity.other.attribute-name")
  | nameBuiltin => some (Text.of "support.function")
  | nameBuiltinPseudo => some (Text.of "variable.language")
  | nameClass => some (Text.of "entity.name.class")
  | nameConstant => some (Text.of "variable.other.constant")
  | nameDecorator => some (Text.of "entity.name.function.decorator")
  | nameEntity => some (Text.of "constant.character.entity")
  | nameException => some (Text.of "entity.name.class.exception")
  | nameFunction => some (Text.of "entity.name.function")
  | nameFunctionMagic => some (Text.of "support.function.magic")
  | nameProperty => some (Text.of "variable.other.property")
  | nameLabel => some (Text.of "entity.name.label")
  | nameNamespace => some (Text.of "entity.name.namespace")
  | nameTag => some (Text.of "entity.name.tag")
  | nameVariable => some (Text.of "variable")
  | nameVariableClass => some (Text.of "variable.other.class")
  | nameVariableGlobal => some (Text.of "variable.other.global")
  | nameVariableInstance => some (Text.of "variable.other.instance")
  | nameVariableMagic => some (Text.of "variable.language.magic")
  | literal => some (Text.of "constant")
  | literalDate => some (Text.of "constant.other.date")
  | string => some (Text.of "string")
  | stringAffix => some (Text.of "storage.type.string")
  | stringBacktick => some (Text.of "string.interpolated")
  | stringChar => some (Text.of "string.quoted.single.char")
  | stringDelimiter => some (Text.of "punctuation.definition.string")
  | stringDoc => some (Text.of "comment.block.documentation")
  | stringDouble => some (Text.of "string.quoted.double")
  | stringEscape => some (Text.of "constant.character.escape")
  | stringHeredoc => some (Text.of "string.unquoted.heredoc")
  | stringInterpol => some (Text.of "meta.interpolation")
  | stringOther => some (Text.of "string.other")
  | stringRegex => some (Text.of "string.regexp")
  | stringSingle => some (Text.of "string.quoted.single")
  | stringSymbol => some (Text.of "constant.other.symbol")
  | number => some (Text.of "constant.numeric")
  | numberBin => some (Text.of "constant.numeric.binary")
  | numberFloat => some (Text.of "constant.numeric.float")
  | numberHex => some (Text.of "constant.numeric.hex")
  | numberInteger => some (Text.of "constant.numeric.integer")
  | numberIntegerLong => some (Text.of "constant.numeric.integer.long")
  | numberOct => some (Text.of "constant.numeric.octal")
  | operator => some (Text.of "keyword.operator")
  | operatorWord => some (Text.of "keyword.operator.word")
  | comment => some (Text.of "comment")
  | commentHashbang => some (Text.of "comment.line.shebang")
  | commentMultiline => some (Text.of "comment.block")
  | commentPreproc => some (Text.of "meta.preprocessor")
  | commentPreprocfile => some (Text.of "meta.preprocessor.include")
  | commentSingle => some (Text.of "comment.line")
  | commentSpecial => some (Text.of "comment.special")
  | genericDeleted => some (Text.of "markup.deleted")
  | genericEmph => some (Text.of "markup.italic")
  | genericEmphStrong => some (Text.of "markup.bold.italic")
  | genericError => some (Text.of "markup.error")
  | genericHeading => some (Text.of "markup.heading")
  | genericInserted => some (Text.of "markup.inserted")
  | genericOutput => some (Text.of "markup.output")
  | genericPrompt => some (Text.of "markup.prompt")
  | genericStrong => some (Text.of "markup.bold")
  | genericSubheading => some (Text.of "markup.heading.sub")
  | genericTraceback => some (Text.of "markup.traceback")
  | token | text | whitespace | other | name | nameOther | punctuation
  | punctuationMarker | generic => none

end LexBridge.Kind
