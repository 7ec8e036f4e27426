import SqlTemplate.Number.Power

/-!
# Integers of a fixed width

The eight integer kinds differ in their ranges alone, so they are one type family: an integer of a
kind is a whole number together with the proof that it lies in the range of the kind.
-/

namespace SqlTemplate

/-- The widths and signs of the integer types. -/
inductive IntKind where
  | int8
  | int16
  | int32
  | int64
  | uint8
  | uint16
  | uint32
  | uint64
  deriving DecidableEq, Repr

namespace IntKind

/-- The number of bits. -/
def bits : IntKind → Nat
  | int8 | uint8 => 8
  | int16 | uint16 => 16
  | int32 | uint32 => 32
  | int64 | uint64 => 64

/-- Whether the range includes negative numbers. -/
def signed : IntKind → Bool
  | int8 | int16 | int32 | int64 => true
  | uint8 | uint16 | uint32 | uint64 => false

/-- The least number of the kind. -/
def least (k : IntKind) : Int :=
  if k.signed then -(twoTo (k.bits - 1) : Int) else 0

/-- The greatest number of the kind. -/
def greatest (k : IntKind) : Int :=
  if k.signed then (twoTo (k.bits - 1) : Int) - 1 else (twoTo k.bits : Int) - 1

/-- Whether a whole number lies in the range of the kind. -/
def Holds (k : IntKind) (n : Int) : Prop :=
  k.least ≤ n ∧ n ≤ k.greatest

instance (k : IntKind) (n : Int) : Decidable (k.Holds n) :=
  inferInstanceAs (Decidable (_ ∧ _))

/-- The short name of the kind: the sign as a letter, then the width. -/
def letterName (k : IntKind) : String :=
  (if k.signed then "i" else "u") ++ toString k.bits

end IntKind

/-- The integers of one kind. -/
structure Integer (k : IntKind) where
  value : Int
  inRange : k.Holds value
  deriving DecidableEq

namespace Integer

/-- The integer of kind `k` with a given value, none when the range does not hold it. -/
def ofInt? (k : IntKind) (n : Int) : Option (Integer k) :=
  if inRange : k.Holds n then some ⟨n, inRange⟩ else none

/-- The integer of kind `k` that differs from a number by a multiple of the size of the range. -/
def wrapping (k : IntKind) (n : Int) : Integer k where
  value := (n - k.least) % twoTo k.bits + k.least
  inRange := by
    cases k <;>
      simp [twoTo, IntKind.Holds, IntKind.least, IntKind.greatest, IntKind.bits,
        IntKind.signed] <;>
      omega

/-- The decimal digits, after a minus sign for a negative number. -/
def text {k : IntKind} (n : Integer k) : String :=
  toString n.value

end Integer

end SqlTemplate
