import SqlTemplate.Unicode.CaseContext
import SqlTemplate.Unicode.CaseMapping

/-!
# Upper and lower case text

The full mappings of single characters, and the one rule that looks around: a capital sigma that
ends a word becomes the final form of the small sigma.
-/

namespace SqlTemplate.Text

open SqlTemplate.Unicode

/-- Whether the first character that is not passed over is a cased letter. -/
def meetsCased (cs : List Char) : Bool :=
  match cs.dropWhile isCaseIgnorable with
  | c :: _ => isCased c
  | [] => false

/-- The lower case form of a text, `before` being the characters in front of it in reverse. -/
def lowerAfter (before : List Char) : List Char → List Char
  | [] => []
  | c :: rest =>
    (if c = 'Σ' then [if meetsCased before && !meetsCased rest then 'ς' else 'σ']
      else lowerForm c) ++ lowerAfter (c :: before) rest

/-- The lower case form of a text. -/
def lower (cs : List Char) : List Char :=
  lowerAfter [] cs

/-- The upper case form of a text. -/
def upper (cs : List Char) : List Char :=
  cs.flatMap upperForm

end SqlTemplate.Text
