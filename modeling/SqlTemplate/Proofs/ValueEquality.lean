import Mathlib.Data.Option.NAry
import Mathlib.Logic.Function.Basic
import SqlTemplate.Proofs.PreparedTypes

/-!
# Equality of values and of their types

Two values are of one type when they have the same descriptor, the null of the type with no content
left in the types of its elements. Equality is finer and no equivalence, for NaN differs from
itself. It is a comparison of keys all the same: a value with NaN in its content has no key, every
other value has one, and values are equal just when they share their key. So equality is symmetric
and transitive, and reflexive for the values that have a key.
-/

namespace SqlTemplate

/-! ## Comparison of keys -/

/-- There is one key on both sides. -/
def SharesKey {κ : Type} (x y : Option κ) : Prop :=
  ∃ k, x = some k ∧ y = some k

section

variable {κ μ ν : Type} {x x' : Option κ} {y y' : Option μ}

theorem SharesKey.symm (hshares : SharesKey x x') : SharesKey x' x := by
  obtain ⟨k, hx, hx'⟩ := hshares
  exact ⟨k, hx', hx⟩

theorem SharesKey.trans {x'' : Option κ} (hshares : SharesKey x x') (hshares' : SharesKey x' x'') :
    SharesKey x x'' := by
  obtain ⟨k, hx, hx'⟩ := hshares
  obtain ⟨k', hk', hx''⟩ := hshares'
  obtain rfl := Option.some.inj (hx'.symm.trans hk')
  exact ⟨k, hx, hx''⟩

theorem sharesKey_self_iff : SharesKey x x ↔ x ≠ none := by
  rw [Option.ne_none_iff_exists']
  constructor
  · rintro ⟨k, hk, -⟩
    exact ⟨k, hk⟩
  · rintro ⟨k, hk⟩
    exact ⟨k, hk, hk⟩

theorem sharesKey_some_iff {k k' : κ} : SharesKey (some k) (some k') ↔ k = k' := by
  constructor
  · rintro ⟨j, hk, hk'⟩
    exact Option.some.inj (hk.trans hk'.symm)
  · rintro rfl
    exact ⟨k, rfl, rfl⟩

/-- Keys that are put together are shared just when both parts are. -/
theorem sharesKey_map₂_iff {g : κ → μ → ν} (hg : Function.Injective2 g) :
    SharesKey (Option.map₂ g x y) (Option.map₂ g x' y') ↔ SharesKey x x' ∧ SharesKey y y' := by
  constructor
  · rintro ⟨_, hxy, hxy'⟩
    obtain ⟨k, m, hx, hy, rfl⟩ := Option.map₂_eq_some_iff.mp hxy
    obtain ⟨k', m', hx', hy', heq⟩ := Option.map₂_eq_some_iff.mp hxy'
    obtain ⟨rfl, rfl⟩ := hg heq
    exact ⟨⟨_, hx, hx'⟩, _, hy, hy'⟩
  · rintro ⟨⟨k, rfl, rfl⟩, m, rfl, rfl⟩
    exact ⟨g k m, rfl, rfl⟩

theorem sharesKey_map_iff {f : κ → μ} (hf : Function.Injective f) :
    SharesKey (x.map f) (x'.map f) ↔ SharesKey x x' := by
  constructor
  · rintro ⟨_, hx, hx'⟩
    obtain ⟨k, hk, rfl⟩ := Option.map_eq_some_iff.mp hx
    obtain ⟨k', hk', heq⟩ := Option.map_eq_some_iff.mp hx'
    exact ⟨k, hk, by rw [hk', hf heq]⟩
  · rintro ⟨k, rfl, rfl⟩
    exact ⟨f k, rfl, rfl⟩

end

/-- The comparison holds of items that share their key. -/
def ComparesKeys {α κ : Type} (eq : α → α → Bool) (key? : α → Option κ) : Prop :=
  ∀ a b, eq a b = true ↔ SharesKey (key? a) (key? b)

/-- The key of an optional content: there is one also where there is no content. -/
def contentKey? {α κ : Type} (key? : α → Option κ) : Option α → Option (Option κ)
  | none => some none
  | some a => (key? a).map some

theorem ComparesKeys.content {α κ : Type} {eq : α → α → Bool} {key? : α → Option κ}
    (hkeys : ComparesKeys eq key?) : ComparesKeys (Value.eqContent eq) (contentKey? key?) := by
  intro a b
  cases a with
  | none => cases b <;> simp [Value.eqContent, contentKey?, SharesKey]
  | some a =>
      cases b with
      | none => simp [Value.eqContent, contentKey?, SharesKey]
      | some b =>
          rw [Value.eqContent, hkeys a b, contentKey?, contentKey?,
            sharesKey_map_iff fun _ _ => Option.some.inj]

namespace Binary

variable {f : BinaryFormat}

/-- The number as equality sees it: there is one zero, and NaN is none. -/
def key? (x : Binary f) : Option (Binary f) :=
  if x.isNaN then none else some (if x.isZero then zero f false else x)

theorem contentKey?_eq_none_iff {content : Option (Binary f)} :
    contentKey? key? content = none ↔ ∃ x, content = some x ∧ x.isNaN = true := by
  cases content with
  | none => simp [contentKey?]
  | some x => simp [contentKey?, key?]

theorem comparesKeys_numericEq : ComparesKeys (numericEq (f := f)) key? := by
  intro x y
  have hzero : (zero f false).isZero = true := rfl
  by_cases hx : x.isNaN = true
  · simp [numericEq, key?, SharesKey, hx]
  · by_cases hy : y.isNaN = true
    · simp [numericEq, key?, SharesKey, hy]
    · have hnumbers : x.numericEq y = true ↔ x = y ∨ x.isZero = true ∧ y.isZero = true := by
        simp [numericEq, hx, hy]
      rw [hnumbers, key?, key?, if_neg hx, if_neg hy, sharesKey_some_iff]
      grind

end Binary

/-- Decimals are equal just when they have the same units. -/
theorem Decimal.eqContent_iff {a b : Option Decimal} :
    Value.eqContent Decimal.numericEq a b = true ↔ a.map Decimal.units = b.map Decimal.units := by
  cases a <;> cases b <;> simp [Value.eqContent, Decimal.numericEq]

theorem Integer.eq_of_map_value {k : IntKind} {a b : Option (Integer k)}
    (hvalue : a.map (·.value) = b.map (·.value)) : a = b := by
  apply Option.map_injective _ hvalue
  rintro ⟨n, _⟩ ⟨m, _⟩ rfl
  rfl

namespace Value

/-! ## Types -/

/-- The null of the type, in which the types of elements have no content either. -/
def descriptor : Value → Value
  | list _ element => list none element.descriptor
  | v => v.asNull

theorem variant_descriptor (v : Value) : v.descriptor.variant = v.variant := by
  cases v <;> rfl

/-- Values are of one type just when they have one descriptor. -/
theorem sameType_iff (v w : Value) : v.sameType w = true ↔ v.descriptor = w.descriptor := by
  fun_induction sameType v w with
  | case1 => simp [descriptor, asNull]
  | case2 _ element _ element' ih => rw [ih, descriptor, descriptor, list.injEq, eq_self, true_and]
  | case3 v w hdecimal hlist =>
      rw [beq_iff_eq]
      constructor
      · intro hvariant
        cases v <;> cases w <;> first
          | rfl
          | (cases hvariant; done)
          | (cases hvariant; rfl)
          | exact (hdecimal _ _ _ _ _ _ rfl rfl).elim
          | exact (hlist _ _ _ _ rfl rfl).elim
      · intro hdescriptor
        rw [← variant_descriptor v, hdescriptor, variant_descriptor w]

theorem sameType_equivalence : Equivalence fun v w : Value => v.sameType w = true where
  refl := sameType_refl
  symm h := (sameType_iff _ _).mpr ((sameType_iff _ _).mp h).symm
  trans h h' := (sameType_iff _ _).mpr (((sameType_iff _ _).mp h).trans ((sameType_iff _ _).mp h'))

theorem isNull_asNull (v : Value) : v.asNull.isNull = true := by
  cases v <;> rfl

/-- Nulls are equal just when they are of one type. -/
theorem eq_asNull (v w : Value) : v.asNull.eq w.asNull = v.sameType w := by
  cases v <;> cases w <;> try rfl
  -- Only for integers the kind, too, is part of the variant.
  rw [Bool.eq_iff_iff]
  simp [asNull, eq, sameType, variant]

/-! ## Keys of values -/

/-- What equality compares of a value. -/
inductive Key where
  | plain (v : Value)
  | decimal (units : Option Int) (precision scale : UInt8)
  | instant (nanoseconds : Option Int)
  | list (items : Option (List Key)) (element : Value)

/-- The variant of the values with the key. -/
def Key.variant : Key → Variant
  | plain v => v.variant
  | decimal .. => .decimal
  | instant _ => .zonedTimestamp
  | list .. => .list

mutual

/-- The key of a value, none where there is NaN in it. -/
def key? : Value → Option Key
  | float32 c => (contentKey? Binary.key? c).map fun number => .plain (float32 number)
  | float64 c => (contentKey? Binary.key? c).map fun number => .plain (float64 number)
  | decimal c p s => some (.decimal (c.map Decimal.units) p s)
  | zonedTimestamp c => some (.instant (c.map ZonedTimestamp.instant))
  | list none element => some (.list none element.descriptor)
  | list (some items) element =>
    Option.map₂ (fun keys type => .list (some keys) type) (keys? items) (some element.descriptor)
  | v => some (.plain v)

/-- The keys of the items of a list, none if one of them has no key. -/
def keys? : List Value → Option (List Key)
  | [] => some []
  | item :: rest => Option.map₂ (· :: ·) item.key? (keys? rest)

end

theorem variant_of_key? {v : Value} {k : Key} (hk : v.key? = some k) : k.variant = v.variant := by
  cases v with
  | float32 c | float64 c =>
      obtain ⟨_, -, rfl⟩ := Option.map_eq_some_iff.mp hk
      rfl
  | list c element =>
      cases c with
      | none =>
          cases hk
          rfl
      | some items =>
          obtain ⟨_, _, -, -, rfl⟩ := Option.map₂_eq_some_iff.mp hk
          rfl
  | _ =>
      cases hk
      rfl

/-- Equality compares the keys of values, and that of lists the keys of all items. -/
theorem comparesKeys_eq_eqAll : ComparesKeys eq key? ∧ ComparesKeys eqAll keys? := by
  apply eq.mutual_induct
  case case1 | case6 | case7 | case8 | case9 | case10 | case11 | case13 =>
    intro a b
    refine Iff.trans ?_ sharesKey_some_iff.symm
    rw [eq, beq_iff_eq]
    simp
  case case2 =>
    intro k a k' b
    refine Iff.trans ?_ sharesKey_some_iff.symm
    rw [eq, Bool.and_eq_true, beq_iff_eq, beq_iff_eq, Key.plain.injEq, integer.injEq]
    constructor
    · rintro ⟨rfl, hvalue⟩
      exact ⟨rfl, heq_of_eq (Integer.eq_of_map_value hvalue)⟩
    · rintro ⟨rfl, hcontent⟩
      rw [eq_of_heq hcontent]
      exact ⟨rfl, rfl⟩
  case case3 | case4 =>
    intro a b
    rw [eq, key?, key?, sharesKey_map_iff fun _ _ hkey => by simpa using hkey]
    exact Binary.comparesKeys_numericEq.content a b
  case case5 =>
    intro a p s b p' s'
    refine Iff.trans ?_ sharesKey_some_iff.symm
    rw [eq, Bool.and_eq_true, Bool.and_eq_true, Decimal.eqContent_iff, beq_iff_eq, beq_iff_eq,
      and_assoc, Key.decimal.injEq]
  case case12 =>
    intro a b
    refine Iff.trans ?_ sharesKey_some_iff.symm
    rw [eq, beq_iff_eq, Key.instant.injEq]
  case case14 =>
    intro items a items' b ih
    have hlist : Function.Injective2 fun keys type => Key.list (some keys) type :=
      fun _ _ _ _ hkey => by simpa using hkey
    rw [eq, Bool.and_eq_true, ih, sameType_iff, key?, key?, sharesKey_map₂_iff hlist,
      sharesKey_some_iff]
  case case15 =>
    intro a b
    refine Iff.trans ?_ sharesKey_some_iff.symm
    rw [eq, sameType_iff, Key.list.injEq, eq_self, true_and]
  case case16 =>
    intro c a c' b hitems hnone
    cases c with
    | none =>
        cases c' with
        | none => exact (hnone rfl rfl).elim
        | some items => simp [eq, key?, SharesKey]
    | some items =>
        cases c' with
        | none => simp [eq, key?, SharesKey]
        | some items' => exact (hitems _ _ rfl rfl).elim
  case case17 =>
    intro a b
    intros
    have heq : a.eq b = (a.variant == b.variant) := by
      rw [eq] <;> assumption
    rw [heq, beq_iff_eq]
    constructor
    · -- No case before this one applies, so two values of one variant are both `null`.
      intro hvariant
      cases a <;> cases b <;> first
        | (cases hvariant; done)
        | exact sharesKey_some_iff.mpr rfl
        | (exfalso; solve_by_elim)
    · rintro ⟨k, ha, hb⟩
      rw [← variant_of_key? ha, ← variant_of_key? hb]
  case case18 => exact iff_of_true rfl (sharesKey_some_iff.mpr rfl)
  case case19 =>
    intro a items b items' ih ihs
    rw [eqAll, Bool.and_eq_true, ih, ihs, keys?, keys?,
      sharesKey_map₂_iff fun _ _ _ _ => List.cons.inj]
  case case20 =>
    intro items items' hnil hcons
    cases items with
    | nil =>
        cases items' with
        | nil => exact (hnil rfl rfl).elim
        | cons b items' => simp [eqAll, keys?, SharesKey]
    | cons a items =>
        cases items' with
        | nil => simp [eqAll, keys?, SharesKey]
        | cons b items' => exact (hcons _ _ _ _ rfl rfl).elim

/-- Equal values are of one type. -/
theorem sameType_of_eq {v w : Value} (heq : v.eq w = true) : v.sameType w = true := by
  revert heq
  fun_cases eq v w with
  | case2 =>
      rw [Bool.and_eq_true, beq_iff_eq]
      rintro ⟨rfl, -⟩
      simp [sameType, variant]
  | case5 =>
      simp only [Bool.and_eq_true, sameType]
      exact fun h => ⟨h.1.2, h.2⟩
  | case14 =>
      rw [Bool.and_eq_true]
      exact And.right
  | case15 => exact id
  | case16 => exact fun h => absurd h Bool.false_ne_true
  | case17 =>
      intro hvariant
      rw [sameType] <;> assumption
  | _ => exact fun _ => rfl

/-! ## Contents with NaN -/

/-- There is NaN in the content of the value. Items of lists count, the types of elements do not. -/
inductive HasNaN : Value → Prop
  | float32 {x : Binary .single} : x.isNaN = true → HasNaN (float32 (some x))
  | float64 {x : Binary .double} : x.isNaN = true → HasNaN (float64 (some x))
  | list {items : List Value} {element item : Value} :
      item ∈ items → HasNaN item → HasNaN (list (some items) element)

mutual

/-- Just the values with NaN in them have no key. -/
theorem key?_eq_none_iff : ∀ v : Value, v.key? = none ↔ v.HasNaN
  | float32 c => by
      rw [key?, Option.map_eq_none_iff, Binary.contentKey?_eq_none_iff]
      constructor
      · rintro ⟨x, rfl, hx⟩
        exact .float32 hx
      · intro hnan
        cases hnan with
        | float32 hx => exact ⟨_, rfl, hx⟩
  | float64 c => by
      rw [key?, Option.map_eq_none_iff, Binary.contentKey?_eq_none_iff]
      constructor
      · rintro ⟨x, rfl, hx⟩
        exact .float64 hx
      · intro hnan
        cases hnan with
        | float64 hx => exact ⟨_, rfl, hx⟩
  | list (some items) element => by
      rw [key?, Option.map₂_eq_none_iff, or_iff_left (Option.some_ne_none _),
        keys?_eq_none_iff items]
      constructor
      · rintro ⟨item, hitem, hnan⟩
        exact .list hitem hnan
      · intro hnan
        cases hnan with
        | list hitem hnan => exact ⟨_, hitem, hnan⟩
  | null | boolean _ | integer _ _ | decimal _ _ _ | char _ | varchar _ | blob _ | date _ | time _
  | timestamp _ | zonedTimestamp _ | uuid _ | list none _ => ⟨nofun, nofun⟩

theorem keys?_eq_none_iff : ∀ items : List Value, keys? items = none ↔ ∃ item ∈ items, item.HasNaN
  | [] => by simp [keys?]
  | item :: rest => by
      simp only [List.mem_cons, exists_eq_or_imp, ← key?_eq_none_iff item, ← keys?_eq_none_iff rest]
      rw [keys?, Option.map₂_eq_none_iff]

end

end Value

/-- Types and equality fit together. To have one type is an equivalence, and it is the equality of
the nulls that describe the types; such a null describes itself. Equality is symmetric and
transitive, equal values are of one type, and a value is equal to itself just when there is no NaN
in its content, however deep in lists. -/
theorem equality_respects_types :
    Equivalence (fun v w : Value => v.sameType w = true) ∧
    (∀ v w : Value, v.sameType w = true ↔ (v.asNull == w.asNull) = true) ∧
    (∀ v : Value, v.asNull.asNull = v.asNull ∧ v.asNull.isNull = true ∧
      v.asNull.sameType v = true) ∧
    (∀ v w : Value, (v == w) = true → (w == v) = true) ∧
    (∀ u v w : Value, (u == v) = true → (v == w) = true → (u == w) = true) ∧
    (∀ v w : Value, (v == w) = true → v.sameType w = true) ∧
    (∀ v : Value, (v == v) = true ↔ ¬ v.HasNaN) := by
  have hkeys := Value.comparesKeys_eq_eqAll.1
  refine ⟨Value.sameType_equivalence, ?_, ?_, ?_, ?_, ?_, ?_⟩
  · intro v w
    rw [← Value.eq_asNull]
    exact Iff.rfl
  · intro v
    refine ⟨v.asNull_asNull, v.isNull_asNull, ?_⟩
    rw [Value.sameType_asNull]
    exact v.sameType_refl
  · intro v w hvw
    exact (hkeys w v).mpr ((hkeys v w).mp hvw).symm
  · intro u v w huv hvw
    exact (hkeys u w).mpr (((hkeys u v).mp huv).trans ((hkeys v w).mp hvw))
  · exact fun _ _ => Value.sameType_of_eq
  · intro v
    rw [← Value.key?_eq_none_iff]
    exact (hkeys v v).trans sharesKey_self_iff

/-- A price and a zero of either sign, in a list for prices. -/
def pricedZero (price : Decimal) (negative : Bool) : Value :=
  .list (some [.decimal (some price) 10 2, .float64 (some (.zero .double negative))])
    (.decimal (some price) 10 2)

/-- One price written with one, two and three fraction digits. -/
theorem equality_respects_types_scaled :
    let u := pricedZero ⟨false, 15, 1, by decide, by decide⟩ false
    let v := pricedZero ⟨false, 150, 2, by decide, by decide⟩ true
    let w := pricedZero ⟨false, 1500, 3, by decide, by decide⟩ false
    (u == v) = true ∧ (v == w) = true ∧ (u == w) = true ∧ (v == u) = true ∧
      u.sameType v = true := by
  intro u v w
  have huv : (u == v) = true := by decide +kernel
  have hvw : (v == w) = true := by decide +kernel
  obtain ⟨-, -, -, hsymm, htrans, htype, -⟩ := equality_respects_types
  exact ⟨huv, hvw, htrans u v w huv hvw, hsymm u v huv, htype u v huv⟩

end SqlTemplate
