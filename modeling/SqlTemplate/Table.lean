/-!
# Tables in key order

A finite map as the list of its entries, keys strictly ascending. The order is part of the type: two
tables with the same look-ups are equal, and whatever is listed from a table is sorted.
-/

namespace SqlTemplate

/-- The order of the keys of a table is strict and total. -/
class KeyOrder (κ : Type) [LT κ] : Prop where
  irrefl (a : κ) : ¬ a < a
  trans {a b c : κ} : a < b → b < c → a < c
  connected {a b : κ} : a ≠ b → a < b ∨ b < a

instance : KeyOrder Nat where
  irrefl := Nat.lt_irrefl
  trans := Nat.lt_trans
  connected := Nat.lt_or_gt_of_ne

instance : KeyOrder String where
  irrefl := String.lt_irrefl
  trans := String.lt_trans
  connected {a b} distinct :=
    if less : a < b then .inl less
    else .inr (String.not_le.mp fun le =>
      distinct (String.le_antisymm le (String.not_lt.mp less)))

/-- A finite map from `κ` to `α`. -/
structure Table (κ α : Type) [LT κ] where
  entries : List (κ × α)
  ascending : entries.Pairwise fun a b => a.1 < b.1

namespace Table

variable {κ α : Type} [LT κ]

/-- The table without entries. -/
def empty : Table κ α := ⟨[], .nil⟩

instance : EmptyCollection (Table κ α) := ⟨empty⟩

instance : Inhabited (Table κ α) := ⟨empty⟩

/-- The keys, in order. -/
def keys (t : Table κ α) : List κ := t.entries.map Prod.fst

/-- The number of entries. -/
def size (t : Table κ α) : Nat := t.entries.length

/-- Whether there is no entry. -/
def isEmpty (t : Table κ α) : Bool := t.entries.isEmpty

theorem keys_ascending (t : Table κ α) : t.keys.Pairwise (· < ·) :=
  List.pairwise_map.mpr t.ascending

theorem entries_nodup [KeyOrder κ] (t : Table κ α) : t.entries.Nodup := by
  refine List.nodup_iff_pairwise_ne.mpr (t.ascending.imp ?_)
  rintro a _ less rfl
  exact KeyOrder.irrefl a.1 less

variable [DecidableEq κ]

/-- The value of the first entry of the list with the key `k`. -/
def find? (k : κ) : List (κ × α) → Option α
  | [] => none
  | (k', a) :: rest => if k = k' then some a else find? k rest

/-- The value at a key. -/
def get? (t : Table κ α) (k : κ) : Option α := find? k t.entries

@[simp] theorem get?_empty (k : κ) : (empty : Table κ α).get? k = none := rfl

/-- Whether a key has a value. -/
def contains (t : Table κ α) (k : κ) : Bool := (t.get? k).isSome

/-- The table without the entry of a key. -/
def erase (t : Table κ α) (k : κ) : Table κ α :=
  ⟨t.entries.filter fun e => e.1 ≠ k, t.ascending.filter _⟩

/-! ## What a table is determined by -/

section Extensionality

variable [KeyOrder κ]

theorem find?_eq_some_iff {k : κ} {a : α} {es : List (κ × α)}
    (sorted : es.Pairwise fun x y => x.1 < y.1) : find? k es = some a ↔ (k, a) ∈ es := by
  induction es with
  | nil => simp [find?]
  | cons head rest ih =>
    obtain ⟨k', a'⟩ := head
    rw [List.pairwise_cons] at sorted
    by_cases same : k = k'
    · subst same
      have absent : (k, a) ∉ rest := fun member => KeyOrder.irrefl k (sorted.1 _ member)
      simp [find?, absent, eq_comm]
    · simp [find?, same, ih sorted.2]

/-- The entries of a table are its look-ups. -/
theorem mem_entries_iff (t : Table κ α) (k : κ) (a : α) :
    (k, a) ∈ t.entries ↔ t.get? k = some a :=
  (find?_eq_some_iff t.ascending).symm

theorem mem_keys_iff (t : Table κ α) (k : κ) : k ∈ t.keys ↔ t.get? k ≠ none := by
  simp only [keys, List.mem_map, Prod.exists, exists_and_right, exists_eq_right, mem_entries_iff,
    Option.ne_none_iff_exists']

/-- A table is empty if no key has a value. -/
theorem isEmpty_iff (t : Table κ α) : t.isEmpty = true ↔ ∀ k, t.get? k = none := by
  rw [isEmpty, List.isEmpty_iff, List.eq_nil_iff_forall_not_mem]
  constructor
  · intro absent k
    exact Option.eq_none_iff_forall_ne_some.mpr fun a found =>
      absent (k, a) ((t.mem_entries_iff k a).mpr found)
  · rintro missing ⟨k, a⟩ member
    rw [mem_entries_iff, missing k] at member
    cases member

/-- Tables with the same look-ups are equal. -/
theorem ext_get? {t u : Table κ α} (same : ∀ k, t.get? k = u.get? k) : t = u := by
  have members : t.entries.Perm u.entries := by
    rw [List.perm_ext_iff_of_nodup t.entries_nodup u.entries_nodup]
    intro e
    rw [mem_entries_iff, mem_entries_iff, same]
  have entries : t.entries = u.entries :=
    members.eq_of_pairwise
      (fun _ _ _ _ less greater => (KeyOrder.irrefl _ (KeyOrder.trans less greater)).elim)
      t.ascending u.ascending
  cases t
  cases u
  simp_all

end Extensionality

/-! ## Insertion -/

variable [DecidableLT κ]

/-- The list with the value `a` at the key `k`, in its place by the order of the keys. -/
def place (k : κ) (a : α) : List (κ × α) → List (κ × α)
  | [] => [(k, a)]
  | (k', a') :: rest =>
    if k = k' then (k, a) :: rest
    else if k < k' then (k, a) :: (k', a') :: rest
    else (k', a') :: place k a rest

theorem key_of_mem_place {k : κ} {a : α} {es : List (κ × α)} {e : κ × α}
    (member : e ∈ place k a es) : e.1 = k ∨ e ∈ es := by
  induction es with
  | nil => simp_all [place]
  | cons head rest ih =>
    obtain ⟨k', a'⟩ := head
    grind [place]

theorem find?_place (k k' : κ) (a : α) (es : List (κ × α)) :
    find? k' (place k a es) = if k' = k then some a else find? k' es := by
  induction es with
  | nil => simp [place, find?]
  | cons head rest ih =>
    obtain ⟨j, b⟩ := head
    grind [place, find?]

variable [KeyOrder κ]

theorem ascending_place (k : κ) (a : α) {es : List (κ × α)}
    (sorted : es.Pairwise fun x y => x.1 < y.1) :
    (place k a es).Pairwise fun x y => x.1 < y.1 := by
  induction es with
  | nil => simp [place]
  | cons head rest ih =>
    obtain ⟨k', a'⟩ := head
    rw [List.pairwise_cons] at sorted
    by_cases same : k = k'
    · simp only [place, if_pos same, List.pairwise_cons]
      exact ⟨fun e member => same ▸ sorted.1 e member, sorted.2⟩
    · by_cases less : k < k'
      · simp only [place, if_neg same, if_pos less, List.pairwise_cons]
        refine ⟨fun e member => ?_, sorted.1, sorted.2⟩
        rcases List.mem_cons.mp member with rfl | member
        · exact less
        · exact KeyOrder.trans less (sorted.1 e member)
      · simp only [place, if_neg same, if_neg less, List.pairwise_cons]
        refine ⟨fun e member => ?_, ih sorted.2⟩
        rcases key_of_mem_place member with key | member
        · exact key ▸ (KeyOrder.connected same).resolve_left less
        · exact sorted.1 e member

/-- The table with the value `a` at the key `k`, in place of any earlier one. -/
def insert (t : Table κ α) (k : κ) (a : α) : Table κ α :=
  ⟨place k a t.entries, ascending_place k a t.ascending⟩

/-- The table of the given entries, the last one of a key being the one that counts. -/
def ofList (es : List (κ × α)) : Table κ α :=
  es.foldl (fun t e => t.insert e.1 e.2) empty

@[simp] theorem get?_insert (t : Table κ α) (k k' : κ) (a : α) :
    (t.insert k a).get? k' = if k' = k then some a else t.get? k' :=
  find?_place k k' a t.entries

end Table

end SqlTemplate
