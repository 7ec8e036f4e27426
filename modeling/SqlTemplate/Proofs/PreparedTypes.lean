import SqlTemplate.Registry

/-!
# The type of a prepared value

The standard registry converts an argument to the native type of its variant and back. A native
decimal has neither precision nor scale, so these are what the way through the adapter loses, while
a null is prepared from the type itself and keeps them. Nothing else is lost: a value of any other
type is prepared with the type it was declared with, and a value without a declared type as it is.
-/

namespace SqlTemplate

/-! ## Types without precision and scale -/

namespace Value

/-- The value without the precision and the scale of a decimal. -/
def unqualified : Value → Value
  | decimal content _ _ => decimal content 0 0
  | v => v

theorem variant_asNull (v : Value) : v.asNull.variant = v.variant := by
  cases v <;> rfl

theorem variant_unqualified (v : Value) : v.unqualified.variant = v.variant := by
  cases v <;> rfl

theorem asNull_asNull (v : Value) : v.asNull.asNull = v.asNull := by
  cases v <;> rfl

theorem asNull_of_isNull {v : Value} (h : v.isNull = true) : v.asNull = v := by
  cases v with
  | null => rfl
  | _ => obtain rfl := Option.isNone_iff_eq_none.mp h; rfl

theorem sameType_refl (v : Value) : v.sameType v = true := by
  cases v with
  | decimal content p s => simp [sameType]
  | list content element => exact sameType_refl element
  | _ => simp [sameType]

/-- The content of the left side does not count. -/
theorem sameType_asNull (v w : Value) : v.asNull.sameType w = v.sameType w := by
  cases v <;> cases w <;> rfl

/-- The type stays the same without precision and scale only where there are none. -/
theorem unqualified_sameType_iff (v : Value) :
    v.unqualified.sameType v = true ↔ v.unqualified = v := by
  refine ⟨fun h => ?_, fun h => by rw [h, sameType_refl]⟩
  cases v with
  | decimal content p s =>
      obtain ⟨rfl, rfl⟩ : 0 = p ∧ 0 = s := by simpa [unqualified, sameType] using h
      rfl
  | _ => rfl

end Value

/-- An integer fits its own kind. -/
theorem Reading.integer_self {k : IntKind} (n : Integer k) :
    Reading.integer k (.integer k (some n)) = .ok n := by
  have hfits : Integer.ofInt? k n.value = some n := dif_pos n.inRange
  simp only [Reading.integer, hfits, Reading.ofOption]

/-! ## What is registered -/

/-- The native type whose conversion is registered for a variant. -/
def Variant.nativeType? : Variant → Option NativeType
  | .null | .list => none
  | .boolean => some .bool
  | .integer k => some (.integer k)
  | .float32 => some .float32
  | .float64 => some .float64
  | .decimal => some .decimal
  | .char => some .char
  | .varchar => some .text
  | .blob => some .bytes
  | .date => some .date
  | .time => some .time
  | .timestamp => some .timestamp
  | .zonedTimestamp => some .zonedTimestamp
  | .uuid => some .uuid

theorem Variant.exists_nativeType (v : Variant) (hnull : v ≠ .null) (hlist : v ≠ .list) :
    ∃ t, v.nativeType? = some t := by
  cases v with
  | null => exact absurd rfl hnull
  | list => exact absurd rfl hlist
  | _ => exact ⟨_, rfl⟩

namespace Registry

/-- The latest registration for a variant counts, and those of other variants stay. -/
theorem find?_register (r : Registry) (registered type : Value) (adapt : Adapter) :
    (r.register registered adapt).find? type =
      if registered.variant = type.variant then
        some ⟨registered.variant, registered.typeName, adapt⟩
      else r.find? type := by
  have hothers : ((r.registrations.filter fun registration =>
      registration.variant != registered.variant).find? fun registration =>
        registration.variant == type.variant) =
      if registered.variant = type.variant then none else r.find? type := by
    rw [List.find?_filter]
    by_cases h : registered.variant = type.variant
    · simp [h]
    · rw [if_neg h, find?]
      congr 1
      funext registration
      by_cases hvariant : registration.variant = type.variant
      · simp [hvariant, Ne.symm h]
      · simp [hvariant]
  rw [register, find?, List.find?_append, hothers, List.find?_singleton]
  by_cases h : registered.variant = type.variant
  · simp [h]
  · simp [h]

/-- What the conversion to a native type is registered as. -/
def registration (t : NativeType) : Registration :=
  ⟨t.descriptor.variant, t.descriptor.typeName, conversion t⟩

theorem find?_registerType (r : Registry) (t : NativeType) (type : Value) :
    (r.registerType t).find? type =
      if t.descriptor.variant = type.variant then some (registration t) else r.find? type :=
  find?_register r t.descriptor type (conversion t)

/-- Of several registrations for a variant the last one counts. -/
theorem find?_foldl_registerType (ts : List NativeType) (r : Registry) (type : Value) :
    (ts.foldl registerType r).find? type =
      ((ts.reverse.find? fun t => t.descriptor.variant == type.variant).map registration).or
        (r.find? type) := by
  induction ts generalizing r with
  | nil => rfl
  | cons t ts ih =>
      rw [List.foldl_cons, ih, find?_registerType, List.reverse_cons, List.find?_append,
        List.find?_singleton]
      by_cases h : t.descriptor.variant = type.variant
      · simp [h]
      · simp [h]

theorem find?_standard (type : Value) :
    standard.find? type = type.variant.nativeType?.map registration := by
  have htable : ∀ v : Variant,
      (scalarTypes.reverse.find? fun t => t.descriptor.variant == v) = v.nativeType? := by
    intro v
    cases v with
    | integer k => cases k <;> rfl
    | _ => rfl
  rw [standard, find?_foldl_registerType, htable]
  exact Option.or_none

/-! ## What the conversion keeps -/

theorem asNull_toValue {type : Value} {t : NativeType} (h : type.variant.nativeType? = some t)
    (x : t.Carrier) : (t.toValue x).asNull = type.unqualified.asNull := by
  cases type <;> cases h <;> rfl

theorem conversion_self {v : Value} {t : NativeType} (h : v.variant.nativeType? = some t)
    (hv : v.isNull = false) : conversion t v = .ok v.unqualified := by
  cases v with
  | null | list => cases h
  | integer k content =>
      obtain rfl : NativeType.integer k = t := Option.some.inj h
      cases content with
      | none => cases hv
      | some n => exact congrArg (Except.map _) (Reading.integer_self n)
  | decimal content p s =>
      obtain rfl : NativeType.decimal = t := Option.some.inj h
      cases content with
      | none => cases hv
      | some d => rfl
  | _ content =>
      cases h
      cases content with
      | none => cases hv
      | some a => rfl

/-! ## What is prepared -/

variable {argument : Resolved} {v : Value} {t : NativeType}

theorem prepare_standard_of_isNull (h : argument.type.variant.nativeType? = some t)
    (hvalue : argument.value.isNull = true) :
    standard.prepare argument = .ok argument.type.asNull := by
  have htype : argument.type.variant ≠ .null := fun heq => by rw [heq] at h; cases h
  rw [prepare, if_neg htype, find?_standard, h]
  exact if_pos hvalue

/-- A value that is not null goes through the conversion of its type's variant. -/
theorem prepare_standard_eq_ok_iff (h : argument.type.variant.nativeType? = some t)
    (hvalue : argument.value.isNull = false) :
    standard.prepare argument = .ok v ↔ conversion t argument.value = .ok v := by
  have htype : argument.type.variant ≠ .null := fun heq => by rw [heq] at h; cases h
  simp only [prepare, if_neg htype, find?_standard, h, Option.map_some, hvalue, registration]
  cases conversion t argument.value <;> simp

theorem asNull_prepared (h : argument.type.variant.nativeType? = some t)
    (hv : standard.prepare argument = .ok v) :
    v.asNull =
      (if argument.value.isNull then argument.type else argument.type.unqualified).asNull := by
  cases hvalue : argument.value.isNull with
  | true =>
      rw [prepare_standard_of_isNull h hvalue] at hv
      obtain rfl := Except.ok.inj hv
      exact Value.asNull_asNull argument.type
  | false =>
      rw [prepare_standard_eq_ok_iff h hvalue, conversion] at hv
      cases hread : t.ofValue argument.value with
      | error failure => rw [hread] at hv; cases hv
      | ok x =>
          rw [hread] at hv
          obtain rfl := Except.ok.inj hv
          exact asNull_toValue h x

theorem prepare_standard_ofValue (hlist : v.variant ≠ .list) :
    standard.prepare (.ofValue v) = .ok (if v.isNull then v else v.unqualified) := by
  by_cases hnull : v.variant = .null
  · cases v with
    | null => rfl
    | _ => cases hnull
  obtain ⟨t, h⟩ := v.variant.exists_nativeType hnull hlist
  have htype : (Resolved.ofValue v).type.variant.nativeType? = some t := by
    rwa [Resolved.ofValue, Value.variant_asNull]
  cases hvalue : v.isNull with
  | true =>
      rw [prepare_standard_of_isNull htype hvalue, Resolved.ofValue, Value.asNull_asNull,
        Value.asNull_of_isNull hvalue]
      rfl
  | false => exact (prepare_standard_eq_ok_iff htype hvalue).mpr (conversion_self h hvalue)

/-- The standard registry prepares a value of the declared variant. Its type is the declared one
unless the value is not null and the type is a decimal with a precision or a scale: these are not
kept. A value without a declared type is prepared as it is up to the same exception. -/
theorem prepare_standard_keeps_type (argument : Resolved) (prepared v : Value) :
    (argument.type.variant ≠ .null → argument.type.variant ≠ .list →
      standard.prepare argument = .ok prepared →
        prepared.variant = argument.type.variant ∧
        (prepared.sameType argument.type = true ↔
          argument.value.isNull = true ∨ argument.type.unqualified = argument.type)) ∧
    (v.variant ≠ .list →
      standard.prepare (.ofValue v) = .ok (if v.isNull then v else v.unqualified) ∧
      (standard.prepare (.ofValue v) = .ok v ↔ v.isNull = true ∨ v.unqualified = v)) := by
  refine ⟨fun hnull hlist hprepared => ?_, fun hlist => ?_⟩
  · obtain ⟨t, ht⟩ := argument.type.variant.exists_nativeType hnull hlist
    have hasNull := asNull_prepared ht hprepared
    constructor
    · rw [← prepared.variant_asNull, hasNull, Value.variant_asNull]
      split
      · rfl
      · exact argument.type.variant_unqualified
    · rw [← prepared.sameType_asNull, hasNull, Value.sameType_asNull]
      cases argument.value.isNull with
      | true => simp [Value.sameType_refl]
      | false => simp [Value.unqualified_sameType_iff]
  · have hprepared := prepare_standard_ofValue hlist
    refine ⟨hprepared, ?_⟩
    rw [hprepared, Except.ok.injEq]
    cases v.isNull <;> simp

/-- The decimal `1.25`, declared with ten digits of which two are fraction digits. -/
def price : Value := .decimal (some ⟨false, 125, 2, by decide, by decide⟩) 10 2

/-- A four byte integer is prepared as the eight byte integer that it was declared as, and a decimal
without precision and scale as it is. -/
theorem prepare_standard_keeps_type_widened :
    standard.prepare ⟨.integer .int32 (some ⟨5, by decide⟩), .integer .int64 none, true⟩ =
        .ok (.integer .int64 (some ⟨5, by decide⟩)) ∧
      Value.sameType (.integer .int64 (some ⟨5, by decide⟩)) (.integer .int64 none) = true ∧
      standard.prepare (.ofValue price.unqualified) = .ok price.unqualified := by
  have hwidened : standard.prepare
      ⟨.integer .int32 (some ⟨5, by decide⟩), .integer .int64 none, true⟩ =
        .ok (.integer .int64 (some ⟨5, by decide⟩)) := rfl
  obtain ⟨hdeclared, hinferred⟩ := prepare_standard_keeps_type
    ⟨.integer .int32 (some ⟨5, by decide⟩), .integer .int64 none, true⟩
    (.integer .int64 (some ⟨5, by decide⟩)) price.unqualified
  obtain ⟨-, hsame⟩ := hdeclared (by decide) (by decide) hwidened
  obtain ⟨-, hkept⟩ := hinferred (by decide)
  exact ⟨hwidened, hsame.mpr (Or.inr rfl), hkept.mpr (Or.inr rfl)⟩

/-- A decimal loses its precision and scale where a null of its type keeps them. -/
theorem prepare_standard_price :
    ∃ prepared, standard.prepare (.ofValue price) = .ok prepared ∧
      prepared.sameType (Resolved.ofValue price).type = false ∧ prepared ≠ price ∧
      standard.prepare (.ofValue price.asNull) = .ok price.asNull := by
  refine ⟨price.unqualified, rfl, rfl, ?_, rfl⟩
  intro h
  cases h

end Registry

end SqlTemplate
