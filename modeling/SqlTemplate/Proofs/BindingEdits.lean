import SqlTemplate.Proofs.AssociationLists
import SqlTemplate.Statement

/-!
# Arguments bound one after the other

What a binding holds after a sequence of calls is said from the list of the calls: the last argument
of a name counts, and nothing else changes.
-/

namespace SqlTemplate

namespace Table

variable {κ α : Type} [LT κ] [DecidableEq κ] [DecidableLT κ] [KeyOrder κ]

/-- Of the values inserted at a key the last one counts. -/
theorem get?_foldl_insert (t : Table κ α) (entries : List (κ × α)) (k : κ) :
    (entries.foldl (fun t e => t.insert e.1 e.2) t).get? k =
      (entries.reverse.lookup k).or (t.get? k) := by
  induction entries generalizing t with
  | nil => rfl
  | cons entry rest ih =>
      obtain ⟨key, a⟩ := entry
      have hfirst : (t.insert key a).get? k = ([(key, a)].lookup k).or (t.get? k) := by
        rw [get?_insert, lookup_cons_eq]
        by_cases hkey : k = key <;> simp [hkey]
      rw [List.foldl_cons, ih, hfirst, ← Option.or_assoc, ← List.lookup_append,
        ← List.reverse_cons]

theorem isEmpty_insert (t : Table κ α) (k : κ) (a : α) : (t.insert k a).isEmpty = false := by
  have hmem : (k, a) ∈ (t.insert k a).entries := by
    rw [mem_entries_iff, get?_insert, if_pos rfl]
  rw [isEmpty, List.isEmpty_eq_false_iff]
  exact List.ne_nil_of_mem hmem

theorem isEmpty_foldl_insert (t : Table κ α) (entries : List (κ × α)) :
    (entries.foldl (fun t e => t.insert e.1 e.2) t).isEmpty = (t.isEmpty && entries.isEmpty) := by
  induction entries generalizing t with
  | nil => simp
  | cons entry rest ih => rw [List.foldl_cons, ih, isEmpty_insert]; simp

end Table

namespace Binding

theorem eq_of_parts {b b' : Binding} (hpositional : b.positional = b'.positional)
    (hnamed : ∀ name, b.named.get? name = b'.named.get? name) (hfinders : b.finders = b'.finders) :
    b = b' := by
  obtain ⟨positional, named, finders⟩ := b
  obtain rfl : named = b'.named := Table.ext_get? hnamed
  subst hpositional hfinders
  rfl

/-! ## Several arguments -/

theorem positional_addPositionals (b : Binding) (entries : List (Nat × Argument)) :
    (b.addPositionals entries).positional =
      entries.foldl (fun t e => t.insert e.1 e.2) b.positional := by
  induction entries generalizing b with
  | nil => rfl
  | cons entry rest ih => exact ih (b.addPositional entry.1 entry.2)

@[simp]
theorem named_addPositionals (b : Binding) (entries : List (Nat × Argument)) :
    (b.addPositionals entries).named = b.named := by
  induction entries generalizing b with
  | nil => rfl
  | cons entry rest ih => exact ih (b.addPositional entry.1 entry.2)

@[simp]
theorem finders_addPositionals (b : Binding) (entries : List (Nat × Argument)) :
    (b.addPositionals entries).finders = b.finders := by
  induction entries generalizing b with
  | nil => rfl
  | cons entry rest ih => exact ih (b.addPositional entry.1 entry.2)

theorem named_addNameds (b : Binding) (entries : List (String × Argument)) :
    (b.addNameds entries).named = entries.foldl (fun t e => t.insert e.1 e.2) b.named := by
  induction entries generalizing b with
  | nil => rfl
  | cons entry rest ih => exact ih (b.addNamed entry.1 entry.2)

/-- The last argument at a position counts. -/
theorem get?_addPositionals (b : Binding) (entries : List (Nat × Argument)) (position : Nat) :
    (b.addPositionals entries).positional.get? position =
      (entries.reverse.lookup position).or (b.positional.get? position) := by
  rw [positional_addPositionals, Table.get?_foldl_insert]

/-- The last argument of a name counts. -/
theorem get?_addNameds (b : Binding) (entries : List (String × Argument)) (name : String) :
    (b.addNameds entries).named.get? name =
      (entries.reverse.lookup name).or (b.named.get? name) := by
  rw [named_addNameds, Table.get?_foldl_insert]

theorem addNameds_append (b : Binding) (entries others : List (String × Argument)) :
    b.addNameds (entries ++ others) = (b.addNameds entries).addNameds others :=
  List.foldl_append

@[simp]
theorem positional_addNameds (b : Binding) (entries : List (String × Argument)) :
    (b.addNameds entries).positional = b.positional := by
  induction entries generalizing b with
  | nil => rfl
  | cons entry rest ih => exact ih (b.addNamed entry.1 entry.2)

@[simp]
theorem finders_addNameds (b : Binding) (entries : List (String × Argument)) :
    (b.addNameds entries).finders = b.finders := by
  induction entries generalizing b with
  | nil => rfl
  | cons entry rest ih => exact ih (b.addNamed entry.1 entry.2)

/-- Arguments of different names can be bound in any order. -/
theorem addNameds_comm (b : Binding) {entries others : List (String × Argument)}
    (hapart : ∀ e ∈ entries, ∀ e' ∈ others, e.1 ≠ e'.1) :
    (b.addNameds entries).addNameds others = (b.addNameds others).addNameds entries := by
  refine eq_of_parts (by simp only [positional_addNameds]) (fun name => ?_)
    (by simp only [finders_addNameds])
  simp only [get?_addNameds]
  cases hfound : entries.reverse.lookup name with
  | none => simp
  | some argument =>
      have hnone : others.reverse.lookup name = none := by
        refine lookup_eq_none_iff_not_mem.mpr fun hmem => ?_
        obtain ⟨e', he', rfl⟩ := List.mem_map.mp hmem
        exact hapart _ (List.mem_reverse.mp (mem_of_lookup hfound)) e' (List.mem_reverse.mp he') rfl
      simp [hnone]

section

variable {entries : List (String × Argument)} {name : String} {argument : Argument}

/-- A name is bound to nothing but what it was given. -/
theorem mem_of_get?_addNameds
    (hget : (empty.addNameds entries).named.get? name = some argument) :
    (name, argument) ∈ entries := by
  rw [get?_addNameds, show empty.named.get? name = none from rfl, Option.or_none] at hget
  exact List.mem_reverse.mp (mem_of_lookup hget)

theorem get?_addNameds_ne_none_iff :
    (empty.addNameds entries).named.get? name ≠ none ↔ ∃ argument, (name, argument) ∈ entries := by
  constructor
  · intro hbound
    obtain ⟨argument, hget⟩ := Option.ne_none_iff_exists'.mp hbound
    exact ⟨argument, mem_of_get?_addNameds hget⟩
  · rintro ⟨argument, hmem⟩ hnone
    rw [get?_addNameds, show empty.named.get? name = none from rfl, Option.or_none] at hnone
    exact ne_of_lookup_eq_none hnone (List.mem_reverse.mpr hmem) rfl

/-- A name that was given one argument only is bound to it. -/
theorem get?_addNameds_of_unique (hmem : (name, argument) ∈ entries)
    (honly : ∀ other, (name, other) ∈ entries → other = argument) :
    (empty.addNameds entries).named.get? name = some argument := by
  obtain ⟨other, hget⟩ :=
    Option.ne_none_iff_exists'.mp (get?_addNameds_ne_none_iff.mpr ⟨argument, hmem⟩)
  rw [hget, honly other (mem_of_get?_addNameds hget)]

end

end Binding

/-- The calls that bind arguments to names one after the other. -/
def BindCall.ofNameds (entries : List (String × Argument)) : List BindCall :=
  entries.map fun (name, argument) => named name argument

namespace Statement

/-- Binding named arguments never fails. -/
theorem apply_nameds (st : Statement) (entries : List (String × Argument)) :
    (BindCall.ofNameds entries).foldlM apply st =
      .ok { st with draft := st.draft.withBinding (·.addNameds entries) } := by
  induction entries generalizing st with
  | nil => rfl
  | cons entry rest ih => exact ih _

end Statement

end SqlTemplate
