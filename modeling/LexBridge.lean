import LexBridge.Token.Untyped
import LexBridge.Range.Untyped
import LexBridge.Config.Script
import LexBridge.Theme.Style
import LexBridge.Scratch.Scopes
import LexBridge.Lexer.Rotation
import LexBridge.Highlight.Styled
import LexBridge.Main
import LexBridge.Proofs.Range.Units
import LexBridge.Proofs.Range.Placement
import LexBridge.Proofs.Range.Resync
import LexBridge.Proofs.Highlight.Detection
import LexBridge.Proofs.Highlight.Endings
import LexBridge.Proofs.Highlight.Styled
import LexBridge.Proofs.Scratch.Scopes
import LexBridge.Proofs.Token.Truncation
import LexBridge.Proofs.Token.Extension
import LexBridge.Proofs.Token.Warnings
import LexBridge.Proofs.Token.Chunking
import LexBridge.Proofs.Token.Terminators
import LexBridge.Proofs.Token.Peeking
import LexBridge.Proofs.Token.Neighbours
import LexBridge.Proofs.Theme.Styles
import LexBridge.Proofs.Highlight.Callbacks
import LexBridge.Proofs.Tool.Exits
import LexBridge.Proofs.Config.Blocks
import LexBridge.Proofs.Config.Settings
import LexBridge.Proofs.Range.Progress
import LexBridge.Proofs.Wire.Digits
