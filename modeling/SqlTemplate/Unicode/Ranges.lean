/-!
# Properties given by ranges

A property of characters is a table of ranges of code points. The tables of this folder are data of
the Unicode standard; every question about them goes through `inRanges`.
-/

namespace SqlTemplate.Unicode

/-- Whether the code point of `c` lies in one of the ranges, both ends included. -/
def inRanges (ranges : Array (Nat × Nat)) (c : Char) : Bool :=
  ranges.any fun (low, high) => low ≤ c.toNat && c.toNat ≤ high

end SqlTemplate.Unicode
