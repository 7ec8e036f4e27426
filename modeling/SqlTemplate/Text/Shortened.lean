import SqlTemplate.Text.Bytes
import SqlTemplate.Unicode.Blank

/-!
# Long text in messages

Messages quote templates. A template of more than `quotedBytes` bytes is cut at a character
boundary and marked with three dots; white space at the end of what is kept is dropped, whether the
template was cut or not.
-/

namespace SqlTemplate.Text

open SqlTemplate.Unicode (isBlank)

/-- The number of bytes that a message quotes at most. -/
def quotedBytes : Nat := 497

/-- A text without the white space at its end. -/
def trimmedEnd (cs : List Char) : List Char :=
  (cs.reverse.dropWhile isBlank).reverse

/-- A text as messages quote it. -/
def shortened (s : String) : String :=
  let kept := (splitAtByte (boundaryBefore s quotedBytes) s.toList).map Prod.fst
  String.ofList (trimmedEnd (kept.getD s.toList)) ++
    if quotedBytes < s.utf8ByteSize then "..." else ""

end SqlTemplate.Text
