import Mathlib.Data.List.Forall2
import SqlTemplate.Proofs.MismatchReport

/-!
# Resolved arguments and placeholders

A resolution that succeeds gives one argument for each placeholder, and it is the argument of that
placeholder: what is bound to the position or to the name, or what the first finder with an answer
gives for the name. Named parameters are realized once for each name and dealt out by look-ups,
which could lose a placeholder only if a name had no source; that is a mismatch and has been
reported before.
-/

namespace SqlTemplate

namespace Binding

/-! ## Sources -/

/-- The argument that counts for a name: its own one, or the answer of the first finder that has
one. -/
inductive SourceOf (b : Binding) (site : BindingSite) (name : String) : Argument → Prop
  | bound {argument : Argument} :
      b.named.get? name = some argument → SourceOf b site name argument
  | found {earlier later : List Finder} {finder : Finder} {argument : Argument} :
      b.named.get? name = none → b.finders = earlier ++ finder :: later →
      (∀ f ∈ earlier, f.find? site name = none) → finder.find? site name = some argument →
      SourceOf b site name argument

theorem sourceOf_of_source? {b : Binding} {site : BindingSite} {name : String}
    {argument : Argument} (hsource : b.source? site name = some argument) :
    b.SourceOf site name argument := by
  unfold source? at hsource
  cases hbound : b.named.get? name with
  | some own =>
      rw [hbound] at hsource
      exact .bound (hbound.trans hsource)
  | none =>
      rw [hbound] at hsource
      obtain ⟨earlier, finder, later, hfinders, hfound, hearlier⟩ :=
        List.findSome?_eq_some_iff.mp hsource
      exact .found hbound hfinders hearlier hfound

theorem lookup_namedSources {b : Binding} {site : BindingSite} {names : List String}
    {name : String} {argument : Argument} (hname : name ∈ names)
    (hsource : b.source? site name = some argument) :
    (b.namedSources site names).lookup name = some argument := by
  have hlookup : ∀ keys : List String, name ∈ keys →
      (keys.filterMap fun key => (b.source? site key).map (key, ·)).lookup name =
        some argument := by
    intro keys hkeys
    induction keys with
    | nil => simp at hkeys
    | cons key keys ih =>
        rw [List.filterMap_cons]
        by_cases hkey : name = key
        · subst hkey
          simp [hsource]
        · have hrest := ih (by simpa [hkey] using hkeys)
          cases b.source? site key with
          | none => exact hrest
          | some own => simpa [List.lookup_cons, beq_eq_false_iff_ne.mpr hkey] using hrest
  exact hlookup _ (List.mem_eraseDups.mpr hname)

/-- Without a missing position the sources are what is bound from the first position on. -/
theorem positionalSources_keys {b : Binding} {count : Nat}
    (hbound : ∀ i < count, b.positional.get? i ≠ none) :
    (b.positionalSources count).map Prod.fst = List.range count := by
  have hkeys : Enumerates (· < ·) (· < count) ((b.positionalSources count).map Prod.fst) := by
    refine ⟨List.pairwise_map.mpr (b.positional.ascending.filter _), fun i => ?_⟩
    simp only [positionalSources, List.mem_map, List.mem_filter, decide_eq_true_eq]
    constructor
    · rintro ⟨⟨j, argument⟩, ⟨_, hj⟩, rfl⟩
      exact hj
    · intro hi
      obtain ⟨argument, hargument⟩ := Option.ne_none_iff_exists'.mp (hbound i hi)
      exact ⟨(i, argument), ⟨(b.positional.mem_entries_iff i argument).mpr hargument, hi⟩, rfl⟩
  have hrange : Enumerates (· < ·) (· < count) (List.range count) :=
    ⟨List.pairwise_lt_range, fun i => List.mem_range⟩
  exact hkeys.unique (fun _ _ => Nat.lt_asymm) hrange

/-! ## Realized arguments -/

/-- What an argument under a key becomes between two histories. -/
def Matches {κ : Type} (before after : History) (source : κ × Argument) (result : κ × Resolved) :
    Prop :=
  source.1 = result.1 ∧ RealizedBetween before after source.2 result.2

section

variable {κ : Type} {described : κ → String} {before after h h' : History}
  {sources : List (κ × Argument)} {realized : List (κ × Resolved)}
  {outcome : Except Failure (List (κ × Resolved))}

/-- What is realized stands in the order of the sources. -/
theorem RealizesAll.matches (hall : RealizesAll described h sources outcome h') :
    ∀ realized, outcome = .ok realized → List.Forall₂ (Matches h h') sources realized := by
  induction hall with
  | nil =>
      intro realized houtcome
      obtain rfl := Except.ok.inj houtcome
      exact .nil
  | refused =>
      intro realized houtcome
      simp at houtcome
  | @cons h h₁ h' key argument r rest outcome hrealizes hrest ih =>
      intro realized houtcome
      cases outcome with
      | error failure => simp [Except.map] at houtcome
      | ok others =>
          obtain rfl := Except.ok.inj houtcome
          have hfirst : RealizedBetween h h' argument r :=
            ⟨h, h₁, List.suffix_rfl, hrealizes, hrest.suffix⟩
          -- What follows is realized later, and so between the same two histories.
          refine .cons ⟨rfl, hfirst⟩ ((ih others rfl).imp ?_)
          rintro source result ⟨hkey, hrealized⟩
          exact ⟨hkey, hrealized.mono hrealizes.suffix List.suffix_rfl⟩

theorem Matches.getElem?
    (hmatches : List.Forall₂ (Matches before after) sources realized) {i : Nat} {key : κ}
    {argument : Argument} (hsource : sources[i]? = some (key, argument)) :
    ∃ r, realized[i]? = some (key, r) ∧ RealizedBetween before after argument r := by
  induction hmatches generalizing i with
  | nil => simp at hsource
  | @cons source result sources realized hmatch _ ih =>
      cases i with
      | zero =>
          obtain rfl := Option.some.inj hsource
          obtain ⟨key', r⟩ := result
          obtain ⟨rfl, hrealized⟩ := hmatch
          exact ⟨r, rfl, hrealized⟩
      | succ i => exact ih hsource

end

theorem Matches.lookup {before after : History} {sources : List (String × Argument)}
    {realized : List (String × Resolved)}
    (hmatches : List.Forall₂ (Matches before after) sources realized) {name : String}
    {argument : Argument} (hsource : sources.lookup name = some argument) :
    ∃ r, realized.lookup name = some r ∧ RealizedBetween before after argument r := by
  induction hmatches with
  | nil => simp at hsource
  | @cons source result sources realized hmatch _ ih =>
      obtain ⟨key, own⟩ := source
      obtain ⟨key', r⟩ := result
      obtain ⟨rfl, hrealized⟩ := hmatch
      rw [List.lookup_cons] at hsource ⊢
      cases hkey : name == key with
      | true =>
          rw [hkey] at hsource
          obtain rfl := Option.some.inj hsource
          exact ⟨r, rfl, hrealized⟩
      | false =>
          rw [hkey] at hsource
          exact ih hsource

/-! ## Placeholders -/

/-- The argument of each position in order. -/
theorem RealizesAll.positional {b : Binding} {count : Nat} {described : Nat → String}
    {h h' : History} {realized : List (Nat × Resolved)}
    (hbound : ∀ i < count, b.positional.get? i ≠ none)
    (hall : RealizesAll described h (b.positionalSources count) (.ok realized) h') :
    (realized.map Prod.snd).length = count ∧ ∀ i < count, ∃ argument r,
      b.positional.get? i = some argument ∧ (realized.map Prod.snd)[i]? = some r ∧
        RealizedBetween h h' argument r := by
  have hkeys := positionalSources_keys hbound
  have hmatches := hall.matches realized rfl
  constructor
  · rw [List.length_map, ← hmatches.length_eq, ← List.length_map (f := Prod.fst), hkeys,
      List.length_range]
  · intro i hi
    have hkey : ((b.positionalSources count).map Prod.fst)[i]? = some i := by
      rw [hkeys, List.getElem?_range hi]
    rw [List.getElem?_map, Option.map_eq_some_iff] at hkey
    obtain ⟨⟨_, argument⟩, hsource, rfl⟩ := hkey
    obtain ⟨r, hr, hrealized⟩ := Matches.getElem? hmatches hsource
    obtain ⟨_, hargument⟩ := mem_positionalSources (List.mem_of_getElem? hsource)
    refine ⟨argument, r, hargument, ?_, hrealized⟩
    rw [List.getElem?_map, hr]
    rfl

/-- The argument of each name in its place, whatever the number of times that the name stands
there. -/
theorem RealizesAll.named {b : Binding} {site : BindingSite} {names : List String}
    {described : String → String} {h h' : History} {realized : List (String × Resolved)}
    (hsources : ∀ name ∈ names, b.source? site name ≠ none)
    (hall : RealizesAll described h (b.namedSources site names) (.ok realized) h') :
    (names.filterMap (realized.lookup ·)).length = names.length ∧
      (∀ i : Nat, (names.filterMap (realized.lookup ·))[i]? = names[i]?.bind (realized.lookup ·)) ∧
      ∀ name ∈ names, ∃ argument r, b.source? site name = some argument ∧
        realized.lookup name = some r ∧ RealizedBetween h h' argument r := by
  have hmatches := hall.matches realized rfl
  have hfound : ∀ name ∈ names, ∃ argument r, b.source? site name = some argument ∧
      realized.lookup name = some r ∧ RealizedBetween h h' argument r := by
    intro name hname
    obtain ⟨argument, hargument⟩ := Option.ne_none_iff_exists'.mp (hsources name hname)
    obtain ⟨r, hr, hrealized⟩ := Matches.lookup hmatches (lookup_namedSources hname hargument)
    exact ⟨argument, r, hargument, hr, hrealized⟩
  -- No look-up fails, so no placeholder is left out.
  have hwhole : (names.filterMap (realized.lookup ·)).map some =
      names.map (realized.lookup ·) := by
    rw [List.map_filterMap_some_eq_filter_map_isSome, List.filter_eq_self]
    intro found hmem
    obtain ⟨name, hname, rfl⟩ := List.mem_map.mp hmem
    obtain ⟨_, r, _, hr, _⟩ := hfound name hname
    rw [hr]
    rfl
  refine ⟨by simpa using congrArg List.length hwhole, fun i => ?_, hfound⟩
  have hi := congrArg (·[i]?) hwhole
  simp only [List.getElem?_map] at hi
  cases hname : names[i]? with
  | none => simpa [hname] using hi
  | some name =>
      obtain ⟨_, r, _, hr, _⟩ := hfound name (List.mem_of_getElem? hname)
      simpa [hname, hr] using hi

/-- Arguments in the places of the placeholders, realized between two histories. For a position it
is what is bound there. For a name it is what is bound to the name or what the first finder with an
answer gives, and the same in every place of the name. -/
def Aligned (b : Binding) (site : BindingSite) (before after : History) (args : List Resolved) :
    Parameters → Prop
  | .positional count =>
    ∀ i < count, ∃ argument r, b.positional.get? i = some argument ∧ args[i]? = some r ∧
      RealizedBetween before after argument r
  | .named names =>
    (∀ (i : Nat) (name : String), names[i]? = some name → ∃ argument r,
      b.SourceOf site name argument ∧ args[i]? = some r ∧
        RealizedBetween before after argument r) ∧
    ∀ i j : Nat, names[i]? = names[j]? → args[i]? = args[j]?

theorem bound_of_mismatch?_eq_none {b : Binding} {site : BindingSite} {count : Nat}
    {allowUnused : Bool} (hnone : b.mismatch? site (.positional count) allowUnused = none) :
    ∀ i < count, b.positional.get? i ≠ none := by
  intro i hi hunbound
  exact mismatch?_eq_none_iff.mp hnone .missingPositional List.mem_cons_self ⟨i, hi, hunbound⟩

theorem source?_of_mismatch?_eq_none {b : Binding} {site : BindingSite} {names : List String}
    {allowUnused : Bool} (hnone : b.mismatch? site (.named names) allowUnused = none) :
    ∀ name ∈ names, b.source? site name ≠ none := by
  intro name hname hmissing
  exact mismatch?_eq_none_iff.mp hnone .missingNamed List.mem_cons_self
    ⟨name, hname, (b.source?_eq_none_iff site name).mp hmissing⟩

theorem Resolves.aligned {b : Binding} {site : BindingSite} {allowUnused : Bool}
    {h h' : History} {parameters : Parameters} {outcome : Except Failure (List Resolved)}
    (hresolves : b.Resolves site allowUnused h parameters outcome h') {args : List Resolved}
    (houtcome : outcome = .ok args) :
    args.length = parameters.size ∧ b.Aligned site h h' args parameters := by
  cases hresolves with
  | mismatch => simp at houtcome
  | @positional count outcome h' hnone hall =>
      cases outcome with
      | error failure => simp [Except.map] at houtcome
      | ok realized =>
          obtain rfl := Except.ok.inj houtcome
          exact hall.positional (bound_of_mismatch?_eq_none hnone)
  | @named names asked outcome h' hnone _ hall =>
      cases outcome with
      | error failure => simp [Except.map] at houtcome
      | ok realized =>
          obtain rfl := Except.ok.inj houtcome
          obtain ⟨hlength, hget, hfound⟩ := hall.named (source?_of_mismatch?_eq_none hnone)
          refine ⟨hlength, ?_, ?_⟩
          · intro i name hname
            obtain ⟨argument, r, hsource, hr, hrealized⟩ :=
              hfound name (List.mem_of_getElem? hname)
            -- Finders were asked before anything was realized.
            refine ⟨argument, r, sourceOf_of_source? hsource, ?_,
              hrealized.mono (List.suffix_append _ _) List.suffix_rfl⟩
            rw [hget, hname]
            exact hr
          · intro i j hij
            rw [hget, hget, hij]

end Binding

/-- A resolution that succeeds gives one argument for each placeholder, and it is the one that
belongs there. -/
theorem resolve_aligned (b : Binding) (parameters : Parameters) (site : BindingSite)
    (allowUnused : Bool) (before after : Session) (args : List Resolved)
    (hresolved : (b.resolveParameters parameters site allowUnused).run before =
      (.ok args, after)) :
    args.length = parameters.size ∧
      b.Aligned site before.history after.history args parameters := by
  have hresolves := b.resolves_run parameters site allowUnused before.history
  rw [Binding.resolveParameters_run] at hresolved
  generalize (b.resolve parameters site allowUnused).run before.history = answer
    at hresolves hresolved
  obtain ⟨result, h'⟩ := answer
  cases result with
  | error failure => exact absurd (congrArg Prod.fst hresolved) (by simp)
  | ok args' =>
      obtain ⟨hargs, rfl⟩ := Prod.mk.inj hresolved
      exact hresolves.aligned hargs

/-- A counter behind a name that stands in two places is asked once, the name between them being
answered by a finder. -/
theorem resolve_aligned_repeated :
    let b := (Binding.empty.addNamed "a" (.supplier (.counter 7 5))).addFinder
      (.ofValues [("b", .varchar (some "x"))])
    let site : BindingSite := ⟨"", ⟨"", .positional 0⟩, .empty⟩
    let parameters : Parameters := .named ["a", "b", "a"]
    let five : Resolved := .ofValue (.integer .int64 (some (Integer.wrapping .int64 5)))
    let args := [five, .ofValue (.varchar (some "x")), five]
    let after : Session := { Session.empty with history := [.called 7, .asked 0 "b"] }
    (b.resolveParameters parameters site false).run Session.empty = (.ok args, after) ∧
      args.length = parameters.size ∧ b.Aligned site [] after.history args parameters := by
  intro b site parameters five args after
  have hresolved : (b.resolveParameters parameters site false).run Session.empty =
      (.ok args, after) := rfl
  exact ⟨hresolved, resolve_aligned b parameters site false Session.empty after args hresolved⟩

end SqlTemplate
