import SqlTemplate.Unicode.Extending
import SqlTemplate.Unicode.Ignorable
import SqlTemplate.Unicode.Unprintable

/-!
# Text with escapes

The form in which texts, characters and lists of names appear in diagnostics: a backslash before
quotes and backslashes, short escapes for the usual controls, and the code point in hexadecimal for
every other character that has no glyph of its own, need not be shown, or joins the one before it.
-/

namespace SqlTemplate.Text

open SqlTemplate.Unicode (isExtending isHalfwidthSoundMark isIgnorable isUnprintable)

/-- The digits of `n` in base sixteen, in lower case. -/
def hexDigits (n : Nat) : List Char :=
  Nat.toDigits 16 n

/-- The escape that gives the code point. -/
def codePointEscape (c : Char) : List Char :=
  ['\\', 'u', '\x7b'] ++ hexDigits c.toNat ++ ['\x7d']

/-- The escapes with a letter of their own. -/
def shortEscape? : Char → Option (List Char)
  | '\x00' => some ['\\', '0']
  | '\t' => some ['\\', 't']
  | '\n' => some ['\\', 'n']
  | '\r' => some ['\\', 'r']
  | '\\' => some ['\\', '\\']
  | _ => none

/-- Whether the character cannot be made out where it stands. -/
def isHidden (c : Char) : Bool :=
  isUnprintable c || isIgnorable c || (isExtending c && !isHalfwidthSoundMark c)

/-- One character between quotes of the kind `quote`. -/
def escapedChar (quote c : Char) : List Char :=
  match shortEscape? c with
  | some escape => escape
  | none =>
    if c = quote then ['\\', c]
    else if isHidden c then codePointEscape c
    else [c]

/-- A text between double quotes. -/
def escaped (s : String) : String :=
  String.ofList ('"' :: s.toList.flatMap (escapedChar '"') ++ ['"'])

/-- A character between single quotes. -/
def escapedLetter (c : Char) : String :=
  String.ofList ('\'' :: escapedChar '\'' c ++ ['\''])

/-- A list in brackets, its items being written already. -/
def bracketed (items : List String) : String :=
  "[" ++ ", ".intercalate items ++ "]"

/-- A list of names. -/
def escapedNames (names : List String) : String :=
  bracketed (names.map escaped)

/-- The form in which every character outside printable ASCII is escaped, and both kinds of quotes
are. -/
def asciiEscaped (c : Char) : String :=
  match c with
  | '\t' => "\\t"
  | '\r' => "\\r"
  | '\n' => "\\n"
  | '\'' => "\\'"
  | '"' => "\\\""
  | '\\' => "\\\\"
  | _ =>
    if 0x20 ≤ c.toNat && c.toNat ≤ 0x7e then String.singleton c
    else String.ofList (codePointEscape c)

end SqlTemplate.Text
