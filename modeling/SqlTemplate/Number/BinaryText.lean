import SqlTemplate.Number.Shortest

/-!
# Text of floating point numbers

Both texts have the shortest digits that read back. The plain one never has an exponent; the
diagnostic one keeps a digit after the point and turns to an exponent for numbers of `10 ^ 16` and
more and for those below `10 ^ -4`.
-/

namespace SqlTemplate

/-- The choices that a text of a floating point number leaves open. -/
structure BinaryTextStyle where
  /-- What follows a number without fraction digits. -/
  wholeEnd : String
  /-- Which positions of the decimal point are written without an exponent. -/
  positional : Int → Bool

namespace BinaryTextStyle

/-- Digits and, where there is a fraction, a point. -/
def plain : BinaryTextStyle := ⟨"", fun _ => true⟩

/-- At least one fraction digit, and an exponent for very large and very small numbers. -/
def diagnostic : BinaryTextStyle := ⟨".0", fun point => -4 < point && point ≤ 16⟩

end BinaryTextStyle

namespace Binary

variable {f : BinaryFormat}

/-- Digits with the decimal point at the position `point`, counted from their front. -/
def positionalText (wholeEnd : String) (digits : List Char) (point : Int) : String :=
  if point ≤ 0 then
    "0." ++ String.ofList (List.replicate (-point).toNat '0' ++ digits)
  else
    let whole := digits.take point.toNat
    let fraction := digits.drop point.toNat
    String.ofList (whole ++ List.replicate (point.toNat - digits.length) '0') ++
      if fraction.isEmpty then wholeEnd else "." ++ String.ofList fraction

/-- Digits with the point after the first and a power of ten. -/
def scientificText (digits : List Char) (point : Int) : String :=
  let fraction := digits.drop 1
  String.ofList (digits.take 1) ++
    (if fraction.isEmpty then "" else "." ++ String.ofList fraction) ++
    "e" ++ toString (point - 1)

/-- The text of a word in a style. -/
def text (style : BinaryTextStyle) (x : Binary f) : String :=
  if x.isNaN then "NaN"
  else
    (if x.negative then "-" else "") ++
      if x.isInfinite then "inf"
      else if x.isZero then "0" ++ style.wholeEnd
      else
        let (digits, point) := (ShortDecimal.ofBinary x).layout
        if style.positional point then positionalText style.wholeEnd digits point
        else scientificText digits point

end Binary

end SqlTemplate
