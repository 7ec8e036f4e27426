import SqlTemplate.Text.Digits

/-!
# Universally unique identifiers

A word of 128 bits, written as 32 hexadecimal digits in five groups.
-/

namespace SqlTemplate

/-- An identifier of 128 bits. -/
structure Uuid where
  bits : BitVec 128
  deriving DecidableEq

namespace Uuid

/-- The lower case digits in base sixteen, 32 of them. -/
def digits (u : Uuid) : List Char :=
  Text.paddedDigits 16 32 u.bits.toNat

/-- The digits in groups of eight, four, four, four and twelve. -/
def text (u : Uuid) : String :=
  let group (start length : Nat) := String.ofList ((u.digits.drop start).take length)
  "-".intercalate [group 0 8, group 8 4, group 12 4, group 16 4, group 20 12]

end Uuid

end SqlTemplate
