import SqlTemplate.Finder
import SqlTemplate.Proofs.AssociationLists

/-!
# What a finder lists and what it finds

The entries of a finder are its names with their arguments, written out in order: those of a scope
are the inner ones with the scope in front of each name, those of a record are its plain fields and
then those of each nested finder. A finder whose names are all known finds for a name what the first
entry of that name has. The names are taken apart from the front when one is looked for, while they
are put together from the back when they are listed, so the two agree by what it is to be in a
scope: a name is in at most one way in a scope, and it leaves the scope as it was put into it.

A record asks the first nested finder whose scope the name is in, and no other. This is the reason
why no name may be in two scopes of a record.
-/

namespace SqlTemplate

namespace Finder

/-! ## Scopes -/

theorem insideScope?_eq_some_iff {scope name rest : String} :
    insideScope? scope name = some rest ↔ name = intoScope scope rest := by
  rw [insideScope?, Option.map_eq_some_iff, ← String.toList_inj]
  constructor
  · rintro ⟨cs, hcs, rfl⟩
    have hname := List.isPrefixOf?_eq_some_iff_append_eq.mp hcs
    simp [intoScope, ← hname]
  · intro hname
    refine ⟨rest.toList, List.isPrefixOf?_eq_some_iff_append_eq.mpr ?_, String.ofList_toList⟩
    simp [intoScope, hname]

@[simp]
theorem insideScope?_intoScope (scope name : String) :
    insideScope? scope (intoScope scope name) = some name :=
  insideScope?_eq_some_iff.mpr rfl

/-- No name is in both scopes. -/
def ScopesApart (scope scope' : String) : Prop :=
  ∀ name, insideScope? scope name ≠ none → insideScope? scope' name = none

/-- Entries with their names put into a scope. -/
def inScope {α : Type} (scope : String) (entries : List (String × α)) : List (String × α) :=
  entries.map fun (name, a) => (scope ++ "." ++ name, a)

section

variable {α : Type}

theorem map_fst_inScope (scope : String) (entries : List (String × α)) :
    (inScope scope entries).map Prod.fst = (entries.map Prod.fst).map (intoScope scope) := by
  simp [inScope, intoScope]

/-- A name is looked for in a scope by what is left of it inside. -/
theorem lookup_inScope (scope : String) (entries : List (String × α)) (name : String) :
    (inScope scope entries).lookup name = (insideScope? scope name).bind (entries.lookup ·) := by
  induction entries with
  | nil => cases insideScope? scope name <;> rfl
  | cons entry entries ih =>
      obtain ⟨own, a⟩ := entry
      have hcons : inScope scope ((own, a) :: entries) =
          (intoScope scope own, a) :: inScope scope entries := rfl
      rw [hcons, lookup_cons_eq, ih]
      cases hinside : insideScope? scope name with
      | none =>
          have hne : name ≠ intoScope scope own := by
            rintro rfl
            rw [insideScope?_intoScope] at hinside
            cases hinside
          rw [if_neg hne]
          rfl
      | some rest =>
          have hname : name = intoScope scope own ↔ rest = own := by
            rw [← insideScope?_eq_some_iff, hinside, Option.some.injEq]
          simp only [Option.bind_some, lookup_cons_eq, hname]

end

/-! ## The entries of a finder -/

/-- Values as arguments. -/
def valueEntries (entries : List (String × Value)) : List (String × Argument) :=
  entries.map fun (name, v) => (name, .value v)

mutual

/-- The names that a finder lists, with their arguments. -/
def entries : Finder → List (String × Argument)
  | table values => valueEntries values.entries
  | under scope inner => inScope scope inner.entries
  | computed .. => []
  | arguments entries => entries
  | record _ fields nested => valueEntries fields ++ nestedEntries nested
  | reference inner => inner.entries

/-- The entries of nested finders in their scopes. -/
def nestedEntries : List (String × Finder) → List (String × Argument)
  | [] => []
  | (scope, inner) :: rest => inScope scope inner.entries ++ nestedEntries rest

end

theorem map_fst_valueEntries (entries : List (String × Value)) :
    (valueEntries entries).map Prod.fst = entries.map Prod.fst := by
  simp [valueEntries]

mutual

theorem names_eq_entries : ∀ f : Finder, f.names = f.entries.map Prod.fst
  | table values => (map_fst_valueEntries values.entries).symm
  | under scope inner => by
      rw [names, entries, map_fst_inScope, names_eq_entries inner]
  | computed .. => rfl
  | arguments _ => rfl
  | record _ fields nested => by
      rw [names, entries, List.map_append, map_fst_valueEntries, nestedNames_eq_entries nested]
  | reference inner => names_eq_entries inner

theorem nestedNames_eq_entries :
    ∀ nested : List (String × Finder), nestedNames nested = (nestedEntries nested).map Prod.fst
  | [] => rfl
  | (scope, inner) :: rest => by
      rw [nestedNames, nestedEntries, List.map_append, map_fst_inScope, names_eq_entries inner,
        nestedNames_eq_entries rest]

end

/-! ## Finders whose names are all known -/

/-- Nothing is computed, and no name is in two scopes of a record. -/
inductive Listed : Finder → Prop
  | table (values : Table String Value) : Listed (table values)
  | under {scope : String} {inner : Finder} (hinner : inner.Listed) : Listed (under scope inner)
  | arguments (entries : List (String × Argument)) : Listed (arguments entries)
  | record {typeName : String} {fields : List (String × Value)} {nested : List (String × Finder)}
      (hnested : ∀ e ∈ nested, e.2.Listed)
      (hapart : nested.Pairwise fun e e' => ScopesApart e.1 e'.1) :
      Listed (record typeName fields nested)
  | reference {inner : Finder} (hinner : inner.Listed) : Listed (reference inner)

theorem lookup_entries (values : Table String Value) (name : String) :
    values.entries.lookup name = values.get? name := by
  rw [Table.get?]
  induction values.entries with
  | nil => rfl
  | cons entry rest ih => rw [Table.find?, lookup_cons_eq, ih]

/-- Where a name is in one scope, the nested finders with scopes apart from it have no entry. -/
theorem lookup_nestedEntries_of_apart {scope name : String} {nested : List (String × Finder)}
    (hapart : ∀ e ∈ nested, ScopesApart scope e.1) (hinside : insideScope? scope name ≠ none) :
    (nestedEntries nested).lookup name = none := by
  induction nested with
  | nil => rfl
  | cons entry rest ih =>
      obtain ⟨scope', inner⟩ := entry
      obtain ⟨hfirst, hrest⟩ := List.forall_mem_cons.mp hapart
      rw [nestedEntries, List.lookup_append, lookup_inScope, hfirst name hinside, ih hrest]
      rfl

theorem findNested?_eq_lookup {site : BindingSite} {nested : List (String × Finder)}
    (hfind : ∀ e ∈ nested, ∀ name, e.2.find? site name = e.2.entries.lookup name)
    (hapart : nested.Pairwise fun e e' => ScopesApart e.1 e'.1) (name : String) :
    findNested? site nested name = (nestedEntries nested).lookup name := by
  induction nested with
  | nil => rfl
  | cons entry rest ih =>
      obtain ⟨scope, inner⟩ := entry
      obtain ⟨hfirst, hrest⟩ := List.forall_mem_cons.mp hfind
      obtain ⟨hapart, hapart'⟩ := List.pairwise_cons.mp hapart
      rw [findNested?, nestedEntries, List.lookup_append, lookup_inScope]
      cases hinside : insideScope? scope name with
      | none => exact ih hrest hapart'
      | some inside =>
          have hothers : (nestedEntries rest).lookup name = none :=
            lookup_nestedEntries_of_apart hapart (by rw [hinside]; exact Option.some_ne_none _)
          rw [hothers, Option.or_none]
          exact hfirst inside

/-- A finder whose names are all known finds the first entry of a name. -/
theorem find?_eq_lookup {f : Finder} (hf : f.Listed) (site : BindingSite) (name : String) :
    f.find? site name = f.entries.lookup name := by
  induction hf generalizing name with
  | table values =>
      rw [find?, entries, valueEntries, lookup_map_snd, lookup_entries]
  | @under scope inner hinner ih =>
      rw [find?, entries, lookup_inScope]
      cases insideScope? scope name with
      | none => rfl
      | some rest => exact ih rest
  | arguments entries => rfl
  | @record typeName fields nested hnested hapart ih =>
      rw [find?, entries, List.lookup_append, valueEntries, lookup_map_snd]
      cases fields.lookup name with
      | some v => rfl
      | none => exact findNested?_eq_lookup ih hapart name
  | reference hinner ih => exact ih name

/-- A finder whose names are all known finds just the names that it lists. -/
theorem find?_eq_none_iff {f : Finder} (hf : f.Listed) (site : BindingSite) (name : String) :
    f.find? site name = none ↔ name ∉ f.names := by
  rw [find?_eq_lookup hf, names_eq_entries, lookup_eq_none_iff_not_mem]

/-- The name is in both scopes: it is listed, but only the first finder is asked. -/
example : (record "" [] [("a", table ∅), ("a.b", arguments [("c", .value .null)])]).names =
    ["a.b.c"] ∧ ∀ site, find? site
      (record "" [] [("a", table ∅), ("a.b", arguments [("c", .value .null)])]) "a.b.c" = none :=
  ⟨by cbv, fun _ => by cbv⟩

end Finder

end SqlTemplate
