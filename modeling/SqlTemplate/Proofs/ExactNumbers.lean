import Mathlib.Algebra.Order.Field.Rat
import Mathlib.Tactic.Ring
import SqlTemplate.Conversion

/-!
# Exact numbers

Integers and decimals stand for rational numbers. A conversion to an integer succeeds just where the
number is a whole one in the range of the kind, whatever variant the number comes in, and it gives
that number; a conversion of an integer to a decimal gives the same number. It follows that a way
through another integer kind or through decimals neither loses nor gains anything, as long as the
number gets through at all.
-/

namespace SqlTemplate

/-! ## The number of a decimal -/

namespace Decimal

/-- The mantissa with its sign. -/
def signedMantissa (d : Decimal) : Int :=
  if d.negative then -(d.mantissa : Int) else d.mantissa

/-- The number that a decimal stands for. -/
def number (d : Decimal) : Rat :=
  d.signedMantissa / tenTo d.scale

theorem number_eq_iff (d : Decimal) (x : Rat) :
    d.number = x ↔ (d.signedMantissa : Rat) = x * tenTo d.scale := by
  have hne : (tenTo d.scale : Rat) ≠ 0 := by
    exact_mod_cast (tenTo_pos d.scale).ne'
  rw [number, div_eq_iff hne]

theorem number_eq_int_iff (d : Decimal) (z : Int) :
    d.number = z ↔ d.signedMantissa = z * tenTo d.scale := by
  rw [number_eq_iff]
  exact_mod_cast Iff.rfl

/-- A decimal stands for a whole number just when its digits after the point are zeros, and the
number is the one in front of the point. -/
theorem number_eq_int_iff_truncated (d : Decimal) (z : Int) :
    d.number = z ↔ d.isWhole = true ∧ d.truncated = z := by
  rw [number_eq_int_iff, isWhole, beq_iff_eq, truncated, signedMantissa]
  constructor
  · intro hz
    obtain ⟨q, hq⟩ : tenTo d.scale ∣ d.mantissa := by
      rw [← Int.natCast_dvd_natCast]
      cases hsign : d.negative with
      | false =>
          rw [hsign, if_neg Bool.false_ne_true] at hz
          exact Dvd.intro_left z hz.symm
      | true =>
          rw [hsign, if_pos rfl] at hz
          exact Int.dvd_neg.mp (Dvd.intro_left z hz.symm)
    have hpos : (tenTo d.scale : Int) ≠ 0 := by
      exact_mod_cast (tenTo_pos d.scale).ne'
    rw [hq, Nat.mul_mod_right, Nat.mul_div_cancel_left q (tenTo_pos d.scale)]
    refine ⟨rfl, mul_right_cancel₀ hpos ?_⟩
    rw [← hz, hq]
    split <;> push_cast <;> ring
  · rintro ⟨hwhole, rfl⟩
    have hmantissa : (d.mantissa / tenTo d.scale : Nat) * (tenTo d.scale : Int) = d.mantissa := by
      exact_mod_cast Nat.div_mul_cancel (Nat.dvd_of_mod_eq_zero hwhole)
    split
    · rw [neg_mul, hmantissa]
    · rw [hmantissa]

/-- The number in units of the greatest scale. -/
theorem units_eq (d : Decimal) : (d.units : Rat) = d.number * tenTo 28 := by
  have hunits : d.units = d.signedMantissa * tenTo (28 - d.scale) := by
    rw [units, signedMantissa]
    split
    · rw [neg_mul]
    · rfl
  have hscale : tenTo 28 = tenTo d.scale * tenTo (28 - d.scale) := by
    rw [← tenTo_add, Nat.add_sub_cancel' d.scale_le]
  have hnumber := (d.number_eq_iff _).mp rfl
  rw [hunits, hscale, Int.cast_mul, hnumber]
  push_cast
  ring

/-- Decimals are equal as numbers just when they stand for one number. -/
theorem numericEq_iff (d e : Decimal) : d.numericEq e = true ↔ d.number = e.number := by
  have hne : (tenTo 28 : Rat) ≠ 0 := by
    exact_mod_cast (tenTo_pos 28).ne'
  rw [numericEq, beq_iff_eq, ← Int.cast_inj (α := Rat), units_eq, units_eq, mul_left_inj' hne]

theorem number_ofInteger {k : IntKind} (n : Integer k) : (ofInteger n).number = n.value := by
  have hunit : tenTo 0 = 1 := rfl
  rw [number_eq_int_iff, signedMantissa, ofInteger]
  simp only [decide_eq_true_eq, hunit, Nat.cast_one, mul_one]
  split <;> omega

end Decimal

/-! ## Numbers in range -/

namespace Integer

theorem ofInt?_eq_some_iff {k : IntKind} {z : Int} {n : Integer k} :
    ofInt? k z = some n ↔ n.value = z := by
  rw [ofInt?]
  constructor
  · intro h
    split at h
    · cases h
      rfl
    · cases h
  · rintro rfl
    exact dif_pos n.inRange

end Integer

namespace Value

/-- The number of a value that is an integer or a decimal. -/
def number? : Value → Option Rat
  | integer _ (some n) => some n.value
  | decimal (some d) _ _ => some d.number
  | _ => none

end Value

/-! ## Conversions -/

namespace Reading

theorem ofOption_eq_ok_iff {α : Type} {fault : ConversionFault} {o : Option α} {a : α} :
    ofOption fault o = .ok a ↔ o = some a := by
  cases o <;> simp [ofOption, fail]

/-- A number is read as an integer just when it is that integer. -/
theorem integer_eq_ok_iff {v : Value} {x : Rat} (hx : v.number? = some x) {k : IntKind}
    {n : Integer k} : integer k v = .ok n ↔ x = n.value := by
  cases v with
  | integer k' content =>
      cases content with
      | none => cases hx
      | some m =>
          obtain rfl := Option.some.inj hx
          rw [integer, ofOption_eq_ok_iff, Integer.ofInt?_eq_some_iff, eq_comm]
          exact_mod_cast Iff.rfl
  | decimal content p s =>
      cases content with
      | none => cases hx
      | some d =>
          obtain rfl := Option.some.inj hx
          rw [integer, integerOfDecimal, Decimal.number_eq_int_iff_truncated]
          split
          · rename_i hwhole
            rw [ofOption_eq_ok_iff, Integer.ofInt?_eq_some_iff]
            simp [hwhole, eq_comm]
          · rename_i hwhole
            simp [hwhole]
  | _ => cases hx

theorem integer_of_number?_none {v : Value} (hv : v.number? = none) (k : IntKind) :
    integer k v = .error (.conversion (.noConversion v (.integer k))) := by
  cases v with
  | integer k' content =>
      cases content with
      | none => rfl
      | some n => cases hv
  | decimal content p s =>
      cases content with
      | none => rfl
      | some d => cases hv
  | _ => rfl

/-- Every number is read as a decimal that stands for it. -/
theorem decimal_of_number? {v : Value} {x : Rat} (hx : v.number? = some x) :
    ∃ d, decimal v = .ok d ∧ d.number = x := by
  cases v with
  | integer k content =>
      cases content with
      | none => cases hx
      | some n =>
          obtain rfl := Option.some.inj hx
          exact ⟨_, rfl, Decimal.number_ofInteger n⟩
  | decimal content p s =>
      cases content with
      | none => cases hx
      | some d =>
          obtain rfl := Option.some.inj hx
          exact ⟨d, rfl, rfl⟩
  | _ => cases hx

end Reading

namespace NativeType

/-- The integer kinds and the decimals. -/
inductive Exact : NativeType → Prop
  | integer (k : IntKind) : Exact (.integer k)
  | decimal : Exact .decimal

/-- What an exact type reads of a number is that number. -/
theorem Exact.number?_toValue {t : NativeType} (ht : t.Exact) {v : Value} {x : Rat}
    (hx : v.number? = some x) {y : t.Carrier} (hy : t.ofValue v = .ok y) :
    (t.toValue y).number? = some x := by
  cases ht with
  | integer k =>
      obtain rfl := (Reading.integer_eq_ok_iff hx).mp hy
      rfl
  | decimal =>
      obtain ⟨d, hd, rfl⟩ := Reading.decimal_of_number? hx
      obtain rfl := Except.ok.inj (hd.symm.trans hy)
      rfl

end NativeType

/-- Conversions of integers and decimals are exact. A number is read as an integer of a kind just
when it is a whole number in the range of the kind, and then as this number; what is no number, the
nulls among them, is not read as an integer. An integer is read as the decimal of scale zero that
stands for it. When a number is read as any integer kind or as a decimal and then converted on, the
result is that of the direct conversion: the same integer or none, and an equal decimal. -/
theorem numbers_convert_exactly (v : Value) :
    (∀ x, v.number? = some x →
      (∀ k, ((∃ n, (NativeType.integer k).ofValue v = .ok n) ↔ ∃ z : Int, x = z ∧ k.Holds z) ∧
        ∀ n : Integer k, (NativeType.integer k).ofValue v = .ok n → x = n.value) ∧
      ∀ (through : NativeType) (y : through.Carrier), through.Exact → through.ofValue v = .ok y →
        (∀ k, ∀ n : Integer k, (NativeType.integer k).ofValue (through.toValue y) = .ok n ↔
          (NativeType.integer k).ofValue v = .ok n) ∧
        ∃ d e : Decimal, NativeType.decimal.ofValue (through.toValue y) = .ok d ∧
          NativeType.decimal.ofValue v = .ok e ∧ d.numericEq e = true) ∧
    (v.number? = none → ∀ k, (NativeType.integer k).ofValue v =
      .error (.conversion (.noConversion v (.integer k)))) ∧
    ∀ k (n : Integer k), v = .integer k (some n) →
      ∃ d : Decimal, NativeType.decimal.ofValue v = .ok d ∧ d.number = n.value ∧ d.scale = 0 := by
  refine ⟨fun x hx => ⟨fun k => ⟨⟨?_, ?_⟩, ?_⟩, fun through y hthrough hy => ?_⟩,
    fun hv k => Reading.integer_of_number?_none hv k, ?_⟩
  · rintro ⟨n, hn⟩
    exact ⟨n.value, (Reading.integer_eq_ok_iff hx).mp hn, n.inRange⟩
  · rintro ⟨z, hz, hrange⟩
    exact ⟨⟨z, hrange⟩, (Reading.integer_eq_ok_iff hx).mpr hz⟩
  · exact fun n hn => (Reading.integer_eq_ok_iff hx).mp hn
  · have hx' := hthrough.number?_toValue hx hy
    refine ⟨fun k n => ?_, ?_⟩
    · exact (Reading.integer_eq_ok_iff hx').trans (Reading.integer_eq_ok_iff hx).symm
    · obtain ⟨d, hd, hnumber⟩ := Reading.decimal_of_number? hx'
      obtain ⟨e, he, rfl⟩ := Reading.decimal_of_number? hx
      exact ⟨d, e, hd, he, (d.numericEq_iff e).mpr hnumber⟩
  · rintro k n rfl
    exact ⟨_, rfl, Decimal.number_ofInteger n, rfl⟩

/-- The decimal `-7.000`. -/
def Decimal.minusSeven : Decimal := ⟨true, 7000, 3, by decide, by decide⟩

/-- Its fraction digits are zeros, so it is an integer of every kind that has a sign, and it is none
of the others; through two byte integers it is the same. -/
theorem numbers_convert_exactly_negative :
    let v := Value.decimal (some .minusSeven) 10 2
    v.number? = some (-7 : Int) ∧
    (∃ n, (NativeType.integer .int8).ofValue v = .ok n) ∧
    (¬∃ n, (NativeType.integer .uint64).ofValue v = .ok n) ∧
    (∀ k, ∀ n : Integer k,
      (NativeType.integer k).ofValue (.integer .int16 (some ⟨-7, by decide⟩)) = .ok n ↔
        (NativeType.integer k).ofValue v = .ok n) ∧
    Value.number? (.float64 none) = none ∧
    (NativeType.integer .int8).ofValue (.float64 none) =
      .error (.conversion (.noConversion (.float64 none) (.integer .int8))) := by
  intro v
  have hseven : v.number? = some (-7 : Int) :=
    congrArg some ((Decimal.number_eq_int_iff .minusSeven (-7)).mpr (by decide))
  obtain ⟨hconvert, -⟩ := numbers_convert_exactly v
  obtain ⟨hkinds, hthrough⟩ := hconvert _ hseven
  obtain ⟨-, hnone, -⟩ := numbers_convert_exactly (.float64 none)
  refine ⟨hseven, (hkinds .int8).1.mpr ⟨-7, rfl, by decide⟩, ?_, ?_, rfl, hnone rfl .int8⟩
  · intro hread
    obtain ⟨z, hz, hrange⟩ := (hkinds .uint64).1.mp hread
    obtain rfl := Int.cast_injective hz
    exact absurd hrange (by decide)
  · exact (hthrough (.integer .int16) ⟨-7, by decide⟩ (.integer .int16) rfl).1

end SqlTemplate
