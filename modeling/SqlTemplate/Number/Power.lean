/-!
# Powers of two and of ten

The two bases of the number formats: two for the fields of integers and of binary formats, ten for
the places of decimals.
-/

namespace SqlTemplate

/-- Two to a power: the number of words of `n` bits. -/
def twoTo (n : Nat) : Nat := Nat.pow 2 n

/-- Ten to a power: the number of words of `n` decimal digits. -/
def tenTo (n : Nat) : Nat := Nat.pow 10 n

theorem twoTo_pos (n : Nat) : 0 < twoTo n :=
  Nat.two_pow_pos n

theorem twoTo_add (m n : Nat) : twoTo (m + n) = twoTo m * twoTo n :=
  Nat.pow_add 2 m n

theorem tenTo_pos (n : Nat) : 0 < tenTo n :=
  Nat.pow_pos (by decide)

theorem tenTo_add (m n : Nat) : tenTo (m + n) = tenTo m * tenTo n :=
  Nat.pow_add 10 m n

end SqlTemplate
