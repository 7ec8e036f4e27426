import Mathlib.Data.List.Nodup

/-!
# Looking up in a list of entries

The first entry with a name counts. These are the facts about `List.lookup` that caches, bindings
and resolutions have in common.
-/

namespace SqlTemplate

variable {α : Type} {entries : List (String × α)} {name : String} {a : α}

theorem mem_of_lookup (hfound : entries.lookup name = some a) : (name, a) ∈ entries := by
  obtain ⟨front, back, rfl, -⟩ := List.lookup_eq_some_iff.mp hfound
  exact List.mem_append_right front List.mem_cons_self

theorem ne_of_lookup_eq_none (hnone : entries.lookup name = none) {e : String × α}
    (he : e ∈ entries) : e.1 ≠ name := by
  have hne := List.lookup_eq_none_iff.mp hnone e he
  rw [bne_iff_ne] at hne
  exact hne.symm

/-- When an entry is the only one with its name, it is found. -/
theorem lookup_of_unique (hmem : (name, a) ∈ entries)
    (honly : ∀ other, (name, other) ∈ entries → other = a) : entries.lookup name = some a := by
  cases hfound : entries.lookup name with
  | none => exact absurd rfl (ne_of_lookup_eq_none hfound hmem)
  | some other => rw [honly other (mem_of_lookup hfound)]

theorem lookup_of_mem (hnodup : (entries.map Prod.fst).Nodup) (hmem : (name, a) ∈ entries) :
    entries.lookup name = some a := by
  refine lookup_of_unique hmem fun other hother => ?_
  exact (Prod.mk.inj (List.inj_on_of_nodup_map hnodup hother hmem rfl)).2

theorem lookup_cons_eq {κ : Type} [DecidableEq κ] (entries : List (κ × α)) (own key : κ) (a : α) :
    ((own, a) :: entries).lookup key = if key = own then some a else entries.lookup key := by
  by_cases hkey : key = own
  · rw [hkey, List.lookup_cons_self, if_pos rfl]
  · rw [List.lookup_cons, beq_false_of_ne hkey, if_neg hkey]

theorem lookup_filter_ne {own : String} (hne : name ≠ own) :
    (entries.filter (·.1 != own)).lookup name = entries.lookup name := by
  induction entries with
  | nil => rfl
  | cons e entries ih =>
      obtain ⟨key, a⟩ := e
      by_cases hown : key = own
      · rw [List.filter_cons_of_neg (by simp [hown]), ih, lookup_cons_eq, if_neg (hown ▸ hne)]
      · rw [List.filter_cons_of_pos (by simpa using hown), lookup_cons_eq, lookup_cons_eq, ih]

/-- A name is missed just when no entry has it. -/
theorem lookup_eq_none_iff_not_mem :
    entries.lookup name = none ↔ name ∉ entries.map Prod.fst := by
  rw [List.lookup_eq_none_iff, List.mem_map]
  simp only [bne_iff_ne, not_exists, not_and]
  exact ⟨fun h e he heq => h e he heq.symm, fun h e he heq => h e he heq.symm⟩

theorem lookup_map_snd {β : Type} (f : α → β) (entries : List (String × α)) (name : String) :
    (entries.map fun (name, a) => (name, f a)).lookup name = (entries.lookup name).map f := by
  induction entries with
  | nil => rfl
  | cons e entries ih =>
      obtain ⟨own, a⟩ := e
      rw [List.map_cons, lookup_cons_eq, lookup_cons_eq, ih]
      split <;> rfl

/-- When names do not repeat, a list without its last entry lacks the name of that one only. -/
theorem lookup_concat {last : String × α}
    (hdistinct : ((entries ++ [last]).map Prod.fst).Nodup) :
    entries.lookup last.1 = none ∧ ∀ name ≠ last.1,
      entries.lookup name = (entries ++ [last]).lookup name := by
  obtain ⟨key, a⟩ := last
  refine ⟨List.lookup_eq_none_iff.mpr fun e he => ?_, fun name hne => ?_⟩
  · rw [List.map_append] at hdistinct
    have hne := List.disjoint_of_nodup_append hdistinct (List.mem_map_of_mem (f := Prod.fst) he)
    rw [bne_iff_ne]
    rintro rfl
    exact hne (by simp)
  · rw [List.lookup_append, lookup_cons_eq, if_neg hne, List.lookup_nil, Option.or_none]

end SqlTemplate
