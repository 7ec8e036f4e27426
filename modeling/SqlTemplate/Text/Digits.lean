/-!
# Digits of a fixed count

Numbers written with at least a given number of digits.
-/

namespace SqlTemplate.Text

/-- The digits of `n` in a base, zeros put in front up to the given width. -/
def paddedDigits (base width n : Nat) : List Char :=
  let digits := Nat.toDigits base n
  List.replicate (width - digits.length) '0' ++ digits

/-- The decimal digits of `n`, zeros put in front up to the given width. -/
def paddedDecimal (width n : Nat) : String :=
  String.ofList (paddedDigits 10 width n)

end SqlTemplate.Text
