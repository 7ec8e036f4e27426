import SqlTemplate.Proofs.PreparedTypes

/-!
# Native values read back

A native value is written in the variant of its type, and one that is missing as the null of the
type. A null says nothing about where in a type something is missing, and pointers are not written
at all. So a type reads back what it writes just when no optional type in it is one of values that
can be missing themselves.
-/

namespace SqlTemplate

namespace NativeType

/-! ## Types -/

/-- Whether the type is made of no other and owns its values. -/
def isScalar : NativeType → Bool
  | bool | integer _ | float32 | float64 | decimal | char | text | sharedText | bytes | date | time
  | timestamp | zonedTimestamp | uuid => true
  | borrowedText | value | list _ | optional _ | boxed _ | shared _ => false

/-- Whether a value can be missing: the type is optional, or a pointer to such a type. -/
def isOptional : NativeType → Bool
  | optional _ => true
  | boxed item | shared item => item.isOptional
  | _ => false

/-- The types that are made of scalar types by lists, optional values and pointers. -/
inductive Composed : NativeType → Prop
  | scalar {t : NativeType} : t.isScalar = true → Composed t
  | list {item : NativeType} : Composed item → Composed (list item)
  | optional {item : NativeType} : Composed item → Composed (optional item)
  | boxed {item : NativeType} : Composed item → Composed (boxed item)
  | shared {item : NativeType} : Composed item → Composed (shared item)

/-- The composed types in which what is optional cannot be missing in itself. -/
inductive Unambiguous : NativeType → Prop
  | scalar {t : NativeType} : t.isScalar = true → Unambiguous t
  | list {item : NativeType} : Unambiguous item → Unambiguous (list item)
  | optional {item : NativeType} :
      Unambiguous item → item.isOptional = false → Unambiguous (optional item)
  | boxed {item : NativeType} : Unambiguous item → Unambiguous (boxed item)
  | shared {item : NativeType} : Unambiguous item → Unambiguous (shared item)

/-- Whether a value is the missing one of an optional type, seen through pointers. -/
def IsMissing : (t : NativeType) → t.Carrier → Prop
  | optional item, x => x = (none : Option item.Carrier)
  | boxed item, x => item.IsMissing x
  | shared item, x => item.IsMissing x
  | _, _ => False

theorem Unambiguous.composed {t : NativeType} (ht : t.Unambiguous) : t.Composed := by
  induction ht with
  | scalar ht => exact .scalar ht
  | list _ ih => exact .list ih
  | optional _ _ ih => exact .optional ih
  | boxed _ ih => exact .boxed ih
  | shared _ ih => exact .shared ih

theorem isOptional_of_isScalar {t : NativeType} (ht : t.isScalar = true) :
    t.isOptional = false := by
  cases t with
  | optional item | boxed item | shared item => cases ht
  | _ => rfl

theorem not_isMissing {t : NativeType} (ht : t.isOptional = false) (x : t.Carrier) :
    ¬ t.IsMissing x := by
  induction t with
  | optional item => cases ht
  | boxed item ih => exact ih ht x
  | shared item ih => exact ih ht x
  | _ => exact id

/-! ## What is written -/

theorem isNull_descriptor (t : NativeType) : t.descriptor.isNull = true := by
  induction t with
  | optional item ih | boxed item ih | shared item ih => exact ih
  | _ => rfl

/-- Only what can be missing is written as a null. -/
theorem isNull_toValue {t : NativeType} (ht : t.Composed) (hplain : t.isOptional = false)
    (x : t.Carrier) : (t.toValue x).isNull = false := by
  induction ht with
  | @scalar t hscalar =>
      cases t with
      | borrowedText | value | list | optional | boxed | shared => cases hscalar
      | _ => rfl
  | list => rfl
  | optional => cases hplain
  | boxed _ ih | shared _ ih => exact ih hplain x

theorem asNull_toValue {t : NativeType} (ht : t.Composed) (x : t.Carrier) :
    (t.toValue x).asNull = t.descriptor := by
  induction ht with
  | @scalar t hscalar =>
      cases t with
      | borrowedText | value | list | optional | boxed | shared => cases hscalar
      | _ => rfl
  | list => rfl
  | @optional item _ ih =>
      cases x with
      | none => exact Value.asNull_of_isNull item.isNull_descriptor
      | some y => exact ih y
  | boxed _ ih | shared _ ih => exact ih x

theorem isNull_toValue_iff {t : NativeType} (ht : t.Unambiguous) (x : t.Carrier) :
    (t.toValue x).isNull = true ↔ t.IsMissing x := by
  have hplain : ∀ {t : NativeType} (x : t.Carrier), t.Composed → t.isOptional = false →
      ((t.toValue x).isNull = true ↔ t.IsMissing x) := fun x hcomposed hoptional =>
    iff_of_false (by simp [isNull_toValue hcomposed hoptional x]) (not_isMissing hoptional x)
  induction ht with
  | scalar hscalar => exact hplain x (.scalar hscalar) (isOptional_of_isScalar hscalar)
  | list hitem => exact hplain x (.list hitem.composed) rfl
  | @optional item hitem hoptional =>
      cases x with
      | none => exact iff_of_true item.isNull_descriptor rfl
      | some y =>
          have hwritten : ((optional item).toValue (some y)).isNull = false :=
            isNull_toValue hitem.composed hoptional y
          exact iff_of_false (by simp [hwritten]) nofun
  | boxed _ ih | shared _ ih => exact ih x

/-- In a type whose values can be missing, one of them is written like the null of the type. -/
theorem exists_toValue_eq_descriptor {t : NativeType} (ht : t.isOptional = true) :
    ∃ x : t.Carrier, t.toValue x = t.descriptor := by
  induction t with
  | optional item => exact ⟨(none : Option item.Carrier), rfl⟩
  | boxed item ih | shared item ih => exact ih ht
  | _ => cases ht

end NativeType

/-! ## What is read -/

/-- Items that are read back one by one are read back as a list. -/
theorem Reading.all_map {α : Type} {read : Value → Reading α} {write : α → Value}
    (hread : ∀ a, read (write a) = .ok a) (as : List α) : all read (as.map write) = .ok as := by
  induction as with
  | nil => rfl
  | cons a as ih => rw [List.map_cons, all, hread, ih]

namespace NativeType

theorem ofValue_optional_of_not_isNull (item : NativeType) {v : Value} (hv : v.isNull = false) :
    (optional item).ofValue v =
      (item.ofValue v).map (some : item.Carrier → Option item.Carrier) := by
  have hpresent : ¬ v.isNull = true := by rw [hv]; exact Bool.false_ne_true
  exact if_neg hpresent

theorem ofValue_toValue {t : NativeType} (ht : t.Unambiguous) (x : t.Carrier) :
    t.ofValue (t.toValue x) = .ok x := by
  induction ht with
  | @scalar t hscalar =>
      cases t with
      | integer k => exact Reading.integer_self x
      | borrowedText | value | list | optional | boxed | shared => cases hscalar
      | _ => rfl
  | list _ ih => exact Reading.all_map ih x
  | @optional item hitem hplain ih =>
      cases x with
      | none => exact if_pos item.isNull_descriptor
      | some y =>
          have hwritten := isNull_toValue hitem.composed hplain y
          exact (ofValue_optional_of_not_isNull item hwritten).trans
            (congrArg (Except.map some) (ih y))
  | boxed _ ih | shared _ ih => exact ih x

/-- A composed type reads back all that it writes only when it is unambiguous: where values of an
optional type can be missing in themselves, what is missing inside is read as missing outside. -/
theorem ofValue_toValue_iff {t : NativeType} (ht : t.Composed) :
    (∀ x : t.Carrier, t.ofValue (t.toValue x) = .ok x) ↔ t.Unambiguous := by
  refine ⟨fun hread => ?_, fun h => ofValue_toValue h⟩
  induction ht with
  | scalar hscalar => exact .scalar hscalar
  | @list item _ ih =>
      refine .list (ih fun x => ?_)
      have hone : Reading.all item.ofValue [item.toValue x] = .ok [x] := hread [x]
      rw [Reading.all] at hone
      cases hitem : item.ofValue (item.toValue x) with
      | error failure => rw [hitem] at hone; cases hone
      | ok y =>
          rw [hitem] at hone
          cases hone
          rfl
  | @optional item hitem ih =>
      have hplain : item.isOptional = false := by
        rw [← Bool.not_eq_true]
        intro hoptional
        obtain ⟨y, hy⟩ := exists_toValue_eq_descriptor hoptional
        have hsome : (optional item).ofValue (item.toValue y) = .ok (some y) := hread (some y)
        have hnone : (optional item).ofValue (item.toValue y) =
            .ok (none : Option item.Carrier) := by
          rw [hy]
          exact if_pos item.isNull_descriptor
        exact absurd (hnone.symm.trans hsome) nofun
      refine .optional (ih fun y => ?_) hplain
      have hsome : (optional item).ofValue (item.toValue y) = .ok (some y) := hread (some y)
      rw [ofValue_optional_of_not_isNull item (isNull_toValue hitem hplain y)] at hsome
      cases hread : item.ofValue (item.toValue y) with
      | error failure => rw [hread] at hsome; cases hsome
      | ok z =>
          rw [hread] at hsome
          cases hsome
          rfl
  | boxed _ ih => exact .boxed (ih hread)
  | shared _ ih => exact .shared (ih hread)

/-- What is missing in an optional value that is there is read as an optional value that is not. -/
example : (optional (boxed (optional bool))).ofValue
    ((optional (boxed (optional bool))).toValue (some none)) = .ok none := rfl

/-- A native value is written so that it can be had back. In a type that is made of scalar types by
lists, optional values and pointers, and in which no optional type is one of values that can be
missing, every value is read back as it was, floating point numbers bit by bit and decimals with
their scale. It is written in the SQL type of its native type, and as a null just when it is itself
the missing value of an optional type, seen through pointers. -/
theorem values_read_back {t : NativeType} (ht : t.Unambiguous) (x : t.Carrier) :
    t.ofValue (t.toValue x) = .ok x ∧ (t.toValue x).asNull = t.descriptor ∧
      ((t.toValue x).isNull = true ↔ t.IsMissing x) :=
  ⟨ofValue_toValue ht x, asNull_toValue ht.composed x, isNull_toValue_iff ht x⟩

/-- Of lists of numbers behind a pointer one is missing, one is empty, and one holds what is not a
number, a zero with a sign and a number that is missing. -/
theorem values_read_back_nested :
    let t := list (optional (boxed (list (shared (optional float32)))))
    let x : t.Carrier := [none, some [],
      some [some (Binary.quietNaN .single), some (Binary.zero .single true), none]]
    t.Unambiguous ∧ t.ofValue (t.toValue x) = .ok x ∧
      (t.toValue x).asNull = .list none (.list none (.float32 none)) ∧
      ((t.toValue x).isNull = true ↔ t.IsMissing x) := by
  intro t x
  have ht : t.Unambiguous :=
    .list (.optional (.boxed (.list (.shared (.optional (.scalar rfl) rfl)))) rfl)
  exact ⟨ht, values_read_back ht x⟩

end NativeType

end SqlTemplate
