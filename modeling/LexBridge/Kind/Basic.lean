import LexBridge.Text.Basic

/-!
# Token kinds

The vocabulary of lexical categories. Each kind has the dotted label under which the tool prints
it and a name in capitals. A label that is not in the vocabulary stands for the generic kind, so
that no fragment is dropped for being unknown.

## Main definitions

* `Kind`, `Kind.all`: the kinds, and all of them in their order.
* `Kind.label`, `Kind.ofLabel`: the dotted label of a kind, and the kind of any label.
* `Kind.capitalName`: the name of a kind in capitals.
-/

namespace LexBridge

/-- The lexical categories, from plain text over keywords, names, literals, operators and comments
to the generic ones of diffs, prompts and markup. -/
inductive Kind
  | token | text | whitespace | escape | error | other | keyword | keywordConstant
  | keywordDeclaration | keywordNamespace | keywordPseudo | keywordReserved | keywordType | name
  | nameAttribute | nameBuiltin | nameBuiltinPseudo | nameClass | nameConstant | nameDecorator
  | nameEntity | nameException | nameFunction | nameFunctionMagic | nameProperty | nameLabel
  | nameNamespace | nameOther | nameTag | nameVariable | nameVariableClass | nameVariableGlobal
  | nameVariableInstance | nameVariableMagic | literal | literalDate | string | stringAffix
  | stringBacktick | stringChar | stringDelimiter | stringDoc | stringDouble | stringEscape
  | stringHeredoc | stringInterpol | stringOther | stringRegex | stringSingle | stringSymbol
  | number | numberBin | numberFloat | numberHex | numberInteger | numberIntegerLong | numberOct
  | operator | operatorWord | punctuation | punctuationMarker | comment | commentHashbang
  | commentMultiline | commentPreproc | commentPreprocfile | commentSingle | commentSpecial
  | generic | genericDeleted | genericEmph | genericEmphStrong | genericError | genericHeading
  | genericInserted | genericOutput | genericPrompt | genericStrong | genericSubheading
  | genericTraceback
  deriving DecidableEq

namespace Kind

/-- All kinds, in their order. -/
def all : List Kind :=
  [.token, .text, .whitespace, .escape, .error, .other, .keyword, .keywordConstant,
    .keywordDeclaration, .keywordNamespace, .keywordPseudo, .keywordReserved, .keywordType, .name,
    .nameAttribute, .nameBuiltin, .nameBuiltinPseudo, .nameClass, .nameConstant, .nameDecorator,
    .nameEntity, .nameException, .nameFunction, .nameFunctionMagic, .nameProperty, .nameLabel,
    .nameNamespace, .nameOther, .nameTag, .nameVariable, .nameVariableClass, .nameVariableGlobal,
    .nameVariableInstance, .nameVariableMagic, .literal, .literalDate, .string, .stringAffix,
    .stringBacktick, .stringChar, .stringDelimiter, .stringDoc, .stringDouble, .stringEscape,
    .stringHeredoc, .stringInterpol, .stringOther, .stringRegex, .stringSingle, .stringSymbol,
    .number, .numberBin, .numberFloat, .numberHex, .numberInteger, .numberIntegerLong, .numberOct,
    .operator, .operatorWord, .punctuation, .punctuationMarker, .comment, .commentHashbang,
    .commentMultiline, .commentPreproc, .commentPreprocfile, .commentSingle, .commentSpecial,
    .generic, .genericDeleted, .genericEmph, .genericEmphStrong, .genericError, .genericHeading,
    .genericInserted, .genericOutput, .genericPrompt, .genericStrong, .genericSubheading,
    .genericTraceback]

/-- The dotted label of a kind, as the tool prints it. -/
def label : Kind → Text
  | token => Text.of "Token"
  | text => Text.of "Token.Text"
  | whitespace => Text.of "Token.Text.Whitespace"
  | escape => Text.of "Token.Escape"
  | error => Text.of "Token.Error"
  | other => Text.of "Token.Other"
  | keyword => Text.of "Token.Keyword"
  | keywordConstant => Text.of "Token.Keyword.Constant"
  | keywordDeclaration => Text.of "Token.Keyword.Declaration"
  | keywordNamespace => Text.of "Token.Keyword.Namespace"
  | keywordPseudo => Text.of "Token.Keyword.Pseudo"
  | keywordReserved => Text.of "Token.Keyword.Reserved"
  | keywordType => Text.of "Token.Keyword.Type"
  | name => Text.of "Token.Name"
  | nameAttribute => Text.of "Token.Name.Attribute"
  | nameBuiltin => Text.of "Token.Name.Builtin"
  | nameBuiltinPseudo => Text.of "Token.Name.Builtin.Pseudo"
  | nameClass => Text.of "Token.Name.Class"
  | nameConstant => Text.of "Token.Name.Constant"
  | nameDecorator => Text.of "Token.Name.Decorator"
  | nameEntity => Text.of "Token.Name.Entity"
  | nameException => Text.of "Token.Name.Exception"
  | nameFunction => Text.of "Token.Name.Function"
  | nameFunctionMagic => Text.of "Token.Name.Function.Magic"
  | nameProperty => Text.of "Token.Name.Property"
  | nameLabel => Text.of "Token.Name.Label"
  | nameNamespace => Text.of "Token.Name.Namespace"
  | nameOther => Text.of "Token.Name.Other"
  | nameTag => Text.of "Token.Name.Tag"
  | nameVariable => Text.of "Token.Name.Variable"
  | nameVariableClass => Text.of "Token.Name.Variable.Class"
  | nameVariableGlobal => Text.of "Token.Name.Variable.Global"
  | nameVariableInstance => Text.of "Token.Name.Variable.Instance"
  | nameVariableMagic => Text.of "Token.Name.Variable.Magic"
  | literal => Text.of "Token.Literal"
  | literalDate => Text.of "Token.Literal.Date"
  | string => Text.of "Token.Literal.String"
  | stringAffix => Text.of "Token.Literal.String.Affix"
  | stringBacktick => Text.of "Token.Literal.String.Backtick"
  | stringChar => Text.of "Token.Literal.String.Char"
  | stringDelimiter => Text.of "Token.Literal.String.Delimiter"
  | stringDoc => Text.of "Token.Literal.String.Doc"
  | stringDouble => Text.of "Token.Literal.String.Double"
  | stringEscape => Text.of "Token.Literal.String.Escape"
  | stringHeredoc => Text.of "Token.Literal.String.Heredoc"
  | stringInterpol => Text.of "Token.Literal.String.Interpol"
  | stringOther => Text.of "Token.Literal.String.Other"
  | stringRegex => Text.of "Token.Literal.String.Regex"
  | stringSingle => Text.of "Token.Literal.String.Single"
  | stringSymbol => Text.of "Token.Literal.String.Symbol"
  | number => Text.of "Token.Literal.Number"
  | numberBin => Text.of "Token.Literal.Number.Bin"
  | numberFloat => Text.of "Token.Literal.Number.Float"
  | numberHex => Text.of "Token.Literal.Number.Hex"
  | numberInteger => Text.of "Token.Literal.Number.Integer"
  | numberIntegerLong => Text.of "Token.Literal.Number.Integer.Long"
  | numberOct => Text.of "Token.Literal.Number.Oct"
  | operator => Text.of "Token.Operator"
  | operatorWord => Text.of "Token.Operator.Word"
  | punctuation => Text.of "Token.Punctuation"
  | punctuationMarker => Text.of "Token.Punctuation.Marker"
  | comment => Text.of "Token.Comment"
  | commentHashbang => Text.of "Token.Comment.Hashbang"
  | commentMultiline => Text.of "Token.Comment.Multiline"
  | commentPreproc => Text.of "Token.Comment.Preproc"
  | commentPreprocfile => Text.of "Token.Comment.PreprocFile"
  | commentSingle => Text.of "Token.Comment.Single"
  | commentSpecial => Text.of "Token.Comment.Special"
  | generic => Text.of "Token.Generic"
  | genericDeleted => Text.of "Token.Generic.Deleted"
  | genericEmph => Text.of "Token.Generic.Emph"
  | genericEmphStrong => Text.of "Token.Generic.EmphStrong"
  | genericError => Text.of "Token.Generic.Error"
  | genericHeading => Text.of "Token.Generic.Heading"
  | genericInserted => Text.of "Token.Generic.Inserted"
  | genericOutput => Text.of "Token.Generic.Output"
  | genericPrompt => Text.of "Token.Generic.Prompt"
  | genericStrong => Text.of "Token.Generic.Strong"
  | genericSubheading => Text.of "Token.Generic.Subheading"
  | genericTraceback => Text.of "Token.Generic.Traceback"

/-- The kind with a label; the generic kind for a label that no kind has. -/
def ofLabel (text : Text) : Kind := (all.find? fun kind => kind.label = text).getD .generic

/-- The name of a kind in capitals. -/
def capitalName : Kind → Text
  | token => Text.of "TOKEN"
  | text => Text.of "TEXT"
  | whitespace => Text.of "WHITESPACE"
  | escape => Text.of "ESCAPE"
  | error => Text.of "ERROR"
  | other => Text.of "OTHER"
  | keyword => Text.of "KEYWORD"
  | keywordConstant => Text.of "KEYWORD_CONSTANT"
  | keywordDeclaration => Text.of "KEYWORD_DECLARATION"
  | keywordNamespace => Text.of "KEYWORD_NAMESPACE"
  | keywordPseudo => Text.of "KEYWORD_PSEUDO"
  | keywordReserved => Text.of "KEYWORD_RESERVED"
  | keywordType => Text.of "KEYWORD_TYPE"
  | name => Text.of "NAME"
  | nameAttribute => Text.of "NAME_ATTRIBUTE"
  | nameBuiltin => Text.of "NAME_BUILTIN"
  | nameBuiltinPseudo => Text.of "NAME_BUILTIN_PSEUDO"
  | nameClass => Text.of "NAME_CLASS"
  | nameConstant => Text.of "NAME_CONSTANT"
  | nameDecorator => Text.of "NAME_DECORATOR"
  | nameEntity => Text.of "NAME_ENTITY"
  | nameException => Text.of "NAME_EXCEPTION"
  | nameFunction => Text.of "NAME_FUNCTION"
  | nameFunctionMagic => Text.of "NAME_FUNCTION_MAGIC"
  | nameProperty => Text.of "NAME_PROPERTY"
  | nameLabel => Text.of "NAME_LABEL"
  | nameNamespace => Text.of "NAME_NAMESPACE"
  | nameOther => Text.of "NAME_OTHER"
  | nameTag => Text.of "NAME_TAG"
  | nameVariable => Text.of "NAME_VARIABLE"
  | nameVariableClass => Text.of "NAME_VARIABLE_CLASS"
  | nameVariableGlobal => Text.of "NAME_VARIABLE_GLOBAL"
  | nameVariableInstance => Text.of "NAME_VARIABLE_INSTANCE"
  | nameVariableMagic => Text.of "NAME_VARIABLE_MAGIC"
  | literal => Text.of "LITERAL"
  | literalDate => Text.of "LITERAL_DATE"
  | string => Text.of "STRING"
  | stringAffix => Text.of "STRING_AFFIX"
  | stringBacktick => Text.of "STRING_BACKTICK"
  | stringChar => Text.of "STRING_CHAR"
  | stringDelimiter => Text.of "STRING_DELIMITER"
  | stringDoc => Text.of "STRING_DOC"
  | stringDouble => Text.of "STRING_DOUBLE"
  | stringEscape => Text.of "STRING_ESCAPE"
  | stringHeredoc => Text.of "STRING_HEREDOC"
  | stringInterpol => Text.of "STRING_INTERPOL"
  | stringOther => Text.of "STRING_OTHER"
  | stringRegex => Text.of "STRING_REGEX"
  | stringSingle => Text.of "STRING_SINGLE"
  | stringSymbol => Text.of "STRING_SYMBOL"
  | number => Text.of "NUMBER"
  | numberBin => Text.of "NUMBER_BIN"
  | numberFloat => Text.of "NUMBER_FLOAT"
  | numberHex => Text.of "NUMBER_HEX"
  | numberInteger => Text.of "NUMBER_INTEGER"
  | numberIntegerLong => Text.of "NUMBER_INTEGER_LONG"
  | numberOct => Text.of "NUMBER_OCT"
  | operator => Text.of "OPERATOR"
  | operatorWord => Text.of "OPERATOR_WORD"
  | punctuation => Text.of "PUNCTUATION"
  | punctuationMarker => Text.of "PUNCTUATION_MARKER"
  | comment => Text.of "COMMENT"
  | commentHashbang => Text.of "COMMENT_HASHBANG"
  | commentMultiline => Text.of "COMMENT_MULTILINE"
  | commentPreproc => Text.of "COMMENT_PREPROC"
  | commentPreprocfile => Text.of "COMMENT_PREPROCFILE"
  | commentSingle => Text.of "COMMENT_SINGLE"
  | commentSpecial => Text.of "COMMENT_SPECIAL"
  | generic => Text.of "GENERIC"
  | genericDeleted => Text.of "GENERIC_DELETED"
  | genericEmph => Text.of "GENERIC_EMPH"
  | genericEmphStrong => Text.of "GENERIC_EMPH_STRONG"
  | genericError => Text.of "GENERIC_ERROR"
  | genericHeading => Text.of "GENERIC_HEADING"
  | genericInserted => Text.of "GENERIC_INSERTED"
  | genericOutput => Text.of "GENERIC_OUTPUT"
  | genericPrompt => Text.of "GENERIC_PROMPT"
  | genericStrong => Text.of "GENERIC_STRONG"
  | genericSubheading => Text.of "GENERIC_SUBHEADING"
  | genericTraceback => Text.of "GENERIC_TRACEBACK"

end Kind

end LexBridge
