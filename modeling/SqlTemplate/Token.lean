import SqlTemplate.Style
import SqlTemplate.Text.Bytes

/-!
# Tokens of a template

A template is a sequence of tokens: text that is copied, and markers that stand for parameters. A
token shows its text without what only introduces it, so `source` gives back what the template has.
-/

namespace SqlTemplate

/-- The kinds of tokens. -/
inductive TokenKind where
  /-- Plain SQL text. -/
  | literal
  /-- A quoted literal with its quotes. -/
  | quoted
  /-- A comment with its delimiters. -/
  | comment
  /-- The character after a backslash. -/
  | escaped
  /-- The name of a named marker. -/
  | named
  /-- A question mark that stands for a parameter. -/
  | positional
  deriving DecidableEq, Repr

/-- A token and the byte offset in the template at which its source begins. -/
structure Token where
  kind : TokenKind
  text : List Char
  offset : Nat
  deriving DecidableEq

namespace Token

/-- The characters of the template that a token of the given kind and text stands for. -/
def sourceOf (s : Style) : TokenKind → List Char → List Char
  | .escaped, text => '\\' :: text
  | .named, text => s.sigil :: text
  | _, text => text

/-- The characters of the template that the token stands for. -/
def source (s : Style) (t : Token) : List Char :=
  sourceOf s t.kind t.text

/-- Whether the token stands for a parameter. -/
def isMarker (t : Token) : Bool :=
  t.kind == .named || t.kind == .positional

end Token

/-! ## Failures -/

/-- What is wrong with the text of a template. -/
inductive LexFault where
  /-- A quoted literal runs until the end. -/
  | unterminatedQuote
  /-- A block comment is never closed. -/
  | unterminatedComment
  /-- The sigil is followed by characters that cannot form a name. -/
  | invalidParameterName
  /-- Named and positional markers in one template. -/
  | mixedParameters
  deriving DecidableEq, Repr

namespace LexFault

/-- The wording of the fault. -/
def message : LexFault → String
  | unterminatedQuote => "unterminated quoted literal"
  | unterminatedComment => "unterminated block comment"
  | invalidParameterName => "invalid parameter name"
  | mixedParameters => "cannot mix named and positional parameters"

end LexFault

/-- A fault and the byte offset in the template at which it is found. -/
structure LexFailure where
  fault : LexFault
  offset : Nat
  deriving DecidableEq

namespace LexFailure

/-- The wording of the fault and its place. -/
def message (e : LexFailure) : String :=
  e.fault.message ++ " at offset " ++ toString e.offset

end LexFailure

end SqlTemplate
