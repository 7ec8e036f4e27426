import SqlTemplate.Proofs.AssociationLists
import SqlTemplate.Proofs.ListStatement

/-!
# A list bound again

A list that is bound again replaces the attribute as a whole, but its parameters one by one. So the
parameters that only the earlier, longer list has stay bound. They change nothing about a rendering
that allows unused arguments and declares none of them; a strict one reports them, unless it fails
for a reason that comes before.
-/

namespace SqlTemplate

/-! ## Agreement of bindings -/

namespace Parameters

/-- The classes that a strict resolution looks through before it comes to unused names. -/
def kindsBeforeUnusedNames : Parameters → List MismatchKind
  | positional _ => [.missingPositional, .unusedPositional]
  | named _ => [.missingNamed]

theorem mismatchKinds_strict (parameters : Parameters) :
    ∃ later, parameters.mismatchKinds false =
      parameters.kindsBeforeUnusedNames ++ .unusedNamed :: later := by
  cases parameters with
  | positional count => exact ⟨[], rfl⟩
  | named names => exact ⟨[.unusedPositional], rfl⟩

theorem ne_unusedNamed_of_mem {parameters : Parameters} {kind : MismatchKind}
    (hkind : kind ∈ parameters.kindsBeforeUnusedNames) : kind ≠ .unusedNamed := by
  rintro rfl
  cases parameters <;> simp [kindsBeforeUnusedNames] at hkind

theorem ne_unusedNamed_of_mem_permissive {parameters : Parameters} {kind : MismatchKind}
    (hkind : kind ∈ parameters.mismatchKinds true) : kind ≠ .unusedNamed := by
  rintro rfl
  cases parameters <;> simp [mismatchKinds] at hkind

end Parameters

namespace Binding

/-- Whether bindings differ in nothing but named arguments that are not declared. -/
structure AgreesOn (b b' : Binding) (parameters : Parameters) : Prop where
  positional : b.positional = b'.positional
  finders : b.finders = b'.finders
  named : ∀ name ∈ parameters.declaredNames, b.named.get? name = b'.named.get? name

section

variable {b b' : Binding} {parameters : Parameters} {kind : MismatchKind}

theorem AgreesOn.source?_eq (hagrees : b.AgreesOn b' parameters) (site : BindingSite)
    {name : String} (hname : name ∈ parameters.declaredNames) :
    b.source? site name = b'.source? site name := by
  rw [source?, source?, hagrees.named name hname, hagrees.finders]

theorem AgreesOn.questions_eq (hagrees : b.AgreesOn b' parameters) (site : BindingSite) :
    b.questions site parameters = b'.questions site parameters := by
  cases parameters with
  | positional count => rfl
  | named names =>
      refine List.flatMap_congr fun name hname => ?_
      rw [questionsAbout, questionsAbout, hagrees.finders,
        hagrees.named name (List.mem_eraseDups.mp hname)]

/-- Only unused names tell such bindings apart. -/
theorem AgreesOn.report?_eq (hagrees : b.AgreesOn b' parameters) (site : BindingSite)
    (hkind : kind ≠ .unusedNamed) :
    b.report? site parameters kind = b'.report? site parameters kind := by
  cases kind with
  | missingPositional => rw [report?, report?, hagrees.positional]
  | unusedPositional => rw [report?, report?, hagrees.positional]
  | missingNamed =>
      rw [report?, report?]
      refine congrArg _ (List.filter_congr fun name hname => ?_)
      rw [hagrees.source?_eq site (List.mem_eraseDups.mp hname)]
  | unusedNamed => exact absurd rfl hkind

theorem AgreesOn.findSome?_eq (hagrees : b.AgreesOn b' parameters) (site : BindingSite)
    {kinds : List MismatchKind} (hkinds : ∀ kind ∈ kinds, kind ≠ .unusedNamed) :
    kinds.findSome? (b.report? site parameters) = kinds.findSome? (b'.report? site parameters) := by
  induction kinds with
  | nil => rfl
  | cons kind kinds ih =>
      obtain ⟨hkind, hkinds⟩ := List.forall_mem_cons.mp hkinds
      rw [List.findSome?_cons, List.findSome?_cons, hagrees.report?_eq site hkind, ih hkinds]

theorem AgreesOn.mismatch?_permissive (hagrees : b.AgreesOn b' parameters) (site : BindingSite) :
    b.mismatch? site parameters true = b'.mismatch? site parameters true := by
  rw [mismatch?_eq_findSome?, mismatch?_eq_findSome?]
  exact hagrees.findSome?_eq site fun _ => Parameters.ne_unusedNamed_of_mem_permissive

/-- A strict resolution does not come to the unused names when something else is violated before
them. -/
theorem AgreesOn.mismatch?_strict (hagrees : b.AgreesOn b' parameters) (site : BindingSite)
    (hviolated : ∃ kind ∈ parameters.kindsBeforeUnusedNames, b'.Violated site parameters kind) :
    b.mismatch? site parameters false = b'.mismatch? site parameters false := by
  obtain ⟨later, hkinds⟩ := parameters.mismatchKinds_strict
  obtain ⟨m, hfirst⟩ : ∃ m,
      parameters.kindsBeforeUnusedNames.findSome? (b'.report? site parameters) = some m := by
    rw [← Option.ne_none_iff_exists', ne_eq, List.findSome?_eq_none_iff]
    obtain ⟨kind, hkind, hviolated⟩ := hviolated
    exact fun hnone => report?_eq_none_iff.mp (hnone kind hkind) hviolated
  have hsame : parameters.kindsBeforeUnusedNames.findSome? (b.report? site parameters) =
      parameters.kindsBeforeUnusedNames.findSome? (b'.report? site parameters) :=
    hagrees.findSome?_eq site fun _ => Parameters.ne_unusedNamed_of_mem
  rw [mismatch?_eq_findSome?, mismatch?_eq_findSome?, hkinds, List.findSome?_append,
    List.findSome?_append, hsame, hfirst]
  rfl

/-- A strict resolution that comes to the unused names reports them. -/
theorem AgreesOn.mismatch?_unused (hagrees : b.AgreesOn b' parameters) (site : BindingSite)
    (hbefore : ∀ kind ∈ parameters.kindsBeforeUnusedNames, ¬ b'.Violated site parameters kind)
    (hunused : ∃ name, b.UnusedName parameters name) :
    ∃ names, Enumerates (· < ·) (b.UnusedName parameters) names ∧
      b.mismatch? site parameters false = some (.unusedNamed names) := by
  obtain ⟨later, hkinds⟩ := parameters.mismatchKinds_strict
  refine ⟨_, b.enumerates_unusedName parameters, mismatch?_eq_some_iff.mpr ?_⟩
  refine ⟨parameters.kindsBeforeUnusedNames, later, hkinds, fun kind hkind => ?_, hunused,
    b.enumerates_unusedName parameters⟩
  rw [← report?_eq_none_iff, hagrees.report?_eq site (Parameters.ne_unusedNamed_of_mem hkind),
    report?_eq_none_iff]
  exact hbefore kind hkind

/-- Bindings that agree resolve alike when they have the same mismatch. -/
theorem AgreesOn.resolve_run_eq (hagrees : b.AgreesOn b' parameters) (site : BindingSite)
    {allowUnused : Bool}
    (hmismatch : b.mismatch? site parameters allowUnused =
      b'.mismatch? site parameters allowUnused) (h : History) :
    (b.resolve parameters site allowUnused).run h =
      (b'.resolve parameters site allowUnused).run h := by
  cases parameters with
  | positional count =>
      show (b.resolvePositional allowUnused count).run h =
        (b'.resolvePositional allowUnused count).run h
      rw [b.resolvePositional_run site, b'.resolvePositional_run site, hmismatch,
        positionalSources, positionalSources, hagrees.positional]
  | named names =>
      have hsources : b.namedSources site names = b'.namedSources site names :=
        List.filterMap_congr fun name hname => by
          rw [hagrees.source?_eq site (List.mem_eraseDups.mp hname)]
      show (b.resolveNamed site allowUnused names).run h =
        (b'.resolveNamed site allowUnused names).run h
      rw [resolveNamed_run, resolveNamed_run, hmismatch, hagrees.questions_eq site, hsources]

end

end Binding

/-! ## Renderings that end alike -/

/-- Whether two renderings end alike: after the same history, with the same query and arguments or
with the same cause of failure. -/
def Rendered.EndAlike (run run' : Except Failure Rendered × Session) : Prop :=
  run.2.history = run'.2.history ∧
    match run.1, run'.1 with
    | .ok rendered, .ok rendered' =>
      rendered.entry.query = rendered'.entry.query ∧ rendered.arguments = rendered'.arguments
    | .error failure, .error failure' => failure.cause = failure'.cause
    | _, _ => False

/-- A text of a name takes the place of an earlier one. -/
theorem Attributes.define_define (a : Attributes) (key value value' : String) :
    (a.define key value).define key value' = a.define key value' := by
  refine congrArg Attributes.mk (Table.ext_get? fun name => ?_)
  rw [Table.get?_insert, Table.get?_insert]
  by_cases hname : name = key
  · rw [if_pos hname, if_pos hname]
  · rw [if_neg hname, if_neg hname, define, Table.get?_insert, if_neg hname]

namespace Statement

variable {st st' : Statement} {S : Session}

/-- Statements of one template end alike when their bindings resolve alike. -/
theorem endAlike_of_resolve (hS : S.Faithful st.config) (htemplate : st.template = st'.template)
    (hconfig : st.config = st'.config) (hattributes : st.draft.attributes = st'.draft.attributes)
    (hresolve : ∀ text query, st.config.prepared st.draft.attributes st.template =
        .ok (text, query) →
      let site : BindingSite := ⟨text, query, st.draft.attributes⟩
      (st.draft.binding.resolve query.parameters site st.config.allowUnused).run S.history =
        (st'.draft.binding.resolve query.parameters site st.config.allowUnused).run S.history) :
    Rendered.EndAlike (st.render.run S) (st'.render.run S) := by
  have hrender := st.render_run hS
  have hrender' := st'.render_run (hconfig ▸ hS)
  rw [← htemplate, ← hconfig, ← hattributes] at hrender'
  cases hprepared : st.config.prepared st.draft.attributes st.template with
  | error failure =>
      rw [hprepared] at hrender hrender'
      obtain ⟨S₁, hhistory, -, hrun⟩ := hrender
      obtain ⟨S₁', hhistory', -, hrun'⟩ := hrender'
      rw [hrun, hrun']
      exact ⟨hhistory.trans hhistory'.symm, rfl⟩
  | ok pair =>
      obtain ⟨text, query⟩ := pair
      rw [hprepared] at hrender hrender'
      obtain ⟨entry, S₁, hentry, hhistory, -, hrun⟩ := hrender
      obtain ⟨entry', S₁', hentry', hhistory', -, hrun'⟩ := hrender'
      have hsame := hresolve text query hprepared
      rw [hrun, hrun']
      simp only [Binding.answer] at hhistory hhistory' ⊢
      rw [hsame] at hhistory ⊢
      refine ⟨hhistory.trans hhistory'.symm, ?_⟩
      -- The failures show different bindings around the same cause.
      cases ((st'.draft.binding.resolve query.parameters ⟨text, query, st.draft.attributes⟩
        st.config.allowUnused).run S.history).1 with
      | ok args => exact ⟨hentry.trans hentry'.symm, rfl⟩
      | error failure => rfl

/-- A mismatch is the cause why a statement fails. -/
theorem render_of_mismatch (hS : S.Faithful st.config) {text : String} {query : Query}
    (hprepared : st.config.prepared st.draft.attributes st.template = .ok (text, query))
    {m : Mismatch}
    (hmismatch : st.draft.binding.mismatch? ⟨text, query, st.draft.attributes⟩ query.parameters
      st.config.allowUnused = some m) :
    ∃ failure, (st.render.run S).1 = .error failure ∧ failure.cause = .mismatch m := by
  have hrender := st.render_run hS
  rw [hprepared] at hrender
  obtain ⟨entry, S', -, -, -, hrun⟩ := hrender
  rw [hrun]
  have hresolves := (st.draft.binding.resolves_run query.parameters
    ⟨text, query, st.draft.attributes⟩ st.config.allowUnused S.history).cases
  rw [hmismatch] at hresolves
  rcases hresolves with ⟨m', hsome, houtcome⟩ | ⟨hnone, -⟩
  · obtain rfl := Option.some.inj hsome
    refine ⟨st.draft.binding.resolutionFailure ⟨text, query, st.draft.attributes⟩ (.mismatch m),
      ?_, rfl⟩
    simp only [Binding.answer, houtcome, Except.mapError, Except.map]
  · exact absurd hnone (by simp)

/-- Statements of one template whose bindings agree end alike when unused arguments are allowed, or
when something is violated before the unused names. Otherwise a strict one with unused names reports
them. -/
theorem endAlike_or_unused (hS : S.Faithful st.config) (htemplate : st.template = st'.template)
    (hconfig : st.config = st'.config) (hattributes : st.draft.attributes = st'.draft.attributes)
    {text : String} {query : Query}
    (hprepared : st.config.prepared st.draft.attributes st.template = .ok (text, query))
    (hagrees : st.draft.binding.AgreesOn st'.draft.binding query.parameters) :
    let violated := st'.draft.binding.Violated ⟨text, query, st.draft.attributes⟩ query.parameters
    (st.config.allowUnused = true ∨
        (∃ kind ∈ query.parameters.kindsBeforeUnusedNames, violated kind) →
      Rendered.EndAlike (st.render.run S) (st'.render.run S)) ∧
    (st.config.allowUnused = false → (∃ name, st.draft.binding.UnusedName query.parameters name) →
      (∀ kind ∈ query.parameters.kindsBeforeUnusedNames, ¬ violated kind) →
      ∃ failure names, (st.render.run S).1 = .error failure ∧
        failure.cause = .mismatch (.unusedNamed names) ∧
        Binding.Enumerates (· < ·) (st.draft.binding.UnusedName query.parameters) names) := by
  intro violated
  refine ⟨fun hreason => ?_, fun hstrict hunused hbefore => ?_⟩
  · refine endAlike_of_resolve hS htemplate hconfig hattributes fun text' query' hok => ?_
    obtain ⟨rfl, rfl⟩ := Prod.mk.inj (Except.ok.inj (hok.symm.trans hprepared))
    refine hagrees.resolve_run_eq _ ?_ _
    cases hallow : st.config.allowUnused with
    | true => exact hagrees.mismatch?_permissive _
    | false => exact hagrees.mismatch?_strict _ (hreason.resolve_left (by simp [hallow]))
  · obtain ⟨names, hnames, hmismatch⟩ := hagrees.mismatch?_unused _ hbefore hunused
    rw [← hstrict] at hmismatch
    obtain ⟨failure, hrun, hcause⟩ := render_of_mismatch hS hprepared hmismatch
    exact ⟨failure, names, hrun, hcause, hnames⟩

end Statement

/-! ## What is left over -/

namespace Draft

/-- The parameters of a list that a later one with the same key does not replace. -/
def Leftover (key : String) (old new : List Value) (name : String) : Prop :=
  ∃ i, new.length ≤ i ∧ i < old.length ∧ name = listParameter key i

theorem lookup_listArguments_iff {key name : String} {values : List Value} {argument : Argument} :
    (listArguments key values).reverse.lookup name = some argument ↔
      (name, argument) ∈ listArguments key values := by
  constructor
  · exact fun hfound => List.mem_reverse.mp (mem_of_lookup hfound)
  · intro hmem
    refine lookup_of_unique (List.mem_reverse.mpr hmem) fun other hother => ?_
    obtain ⟨i, value, hvalue, rfl, rfl⟩ := mem_listArguments_iff.mp hmem
    obtain ⟨j, value', hvalue', hname, rfl⟩ :=
      mem_listArguments_iff.mp (List.mem_reverse.mp hother)
    obtain rfl := listParameter_injective key hname
    rw [Option.some.inj (hvalue'.symm.trans hvalue)]

theorem lookup_listArguments_eq_none_iff {key name : String} {values : List Value} :
    (listArguments key values).reverse.lookup name = none ↔
      ∀ i < values.length, name ≠ listParameter key i := by
  rw [Option.eq_none_iff_forall_ne_some]
  simp only [ne_eq, lookup_listArguments_iff, mem_listArguments_iff, not_exists, not_and]
  constructor
  · intro hnone i hi hname
    exact hnone _ i values[i] (List.getElem?_eq_getElem hi) hname rfl
  · intro hnone argument i value hvalue hname
    exact absurd hname (hnone i (List.getElem?_eq_some_iff.mp hvalue).1)

end Draft

namespace Binding

open Draft (listArguments listParameter Leftover)

section

variable (b : Binding) {key : String} {xs ys : List Value} {name : String}

theorem get?_list_again :
    ((b.addNameds (listArguments key xs)).addNameds (listArguments key ys)).named.get? name =
      ((listArguments key ys).reverse.lookup name).or
        (((listArguments key xs).reverse.lookup name).or (b.named.get? name)) := by
  rw [get?_addNameds, get?_addNameds]

/-- A name that is not left over is bound as if the earlier list had never been. -/
theorem get?_list_again_of_not_leftover (hname : ¬ Leftover key xs ys name) :
    ((b.addNameds (listArguments key xs)).addNameds (listArguments key ys)).named.get? name =
      (b.addNameds (listArguments key ys)).named.get? name := by
  rw [get?_list_again, get?_addNameds]
  cases hnew : (listArguments key ys).reverse.lookup name with
  | some argument => rfl
  | none =>
      have hold : (listArguments key xs).reverse.lookup name = none := by
        rw [Draft.lookup_listArguments_eq_none_iff] at hnew ⊢
        rintro i hi rfl
        refine hname ⟨i, Nat.le_of_not_lt fun hlt => ?_, hi, rfl⟩
        exact hnew i hlt rfl
      rw [hold, Option.none_or]

theorem get?_list_again_of_leftover (hname : Leftover key xs ys name) :
    ((b.addNameds (listArguments key xs)).addNameds (listArguments key ys)).named.get? name ≠
      none := by
  obtain ⟨i, hnew, hold, rfl⟩ := hname
  have hxs : (listArguments key xs).reverse.lookup (listParameter key i) =
      some (.value xs[i]) :=
    Draft.lookup_listArguments_iff.mpr <|
      Draft.mem_listArguments_iff.mpr ⟨i, xs[i], List.getElem?_eq_getElem hold, rfl, rfl⟩
  rw [get?_list_again, hxs]
  cases (listArguments key ys).reverse.lookup (listParameter key i) <;> simp

/-- A list that is not shorter replaces the earlier one. -/
theorem addNameds_list_again (hlength : xs.length ≤ ys.length) :
    (b.addNameds (listArguments key xs)).addNameds (listArguments key ys) =
      b.addNameds (listArguments key ys) := by
  refine eq_of_parts ?_ (fun name => b.get?_list_again_of_not_leftover ?_) ?_
  · simp only [positional_addNameds]
  · rintro ⟨i, hnew, hold, -⟩
    omega
  · simp only [finders_addNameds]

theorem agreesOn_list_again {parameters : Parameters}
    (hundeclared : ∀ name, Leftover key xs ys name → name ∉ parameters.declaredNames) :
    AgreesOn ((b.addNameds (listArguments key xs)).addNameds (listArguments key ys))
      (b.addNameds (listArguments key ys)) parameters where
  positional := by simp only [positional_addNameds]
  finders := by simp only [finders_addNameds]
  named name hname := b.get?_list_again_of_not_leftover fun hleft => hundeclared name hleft hname

/-- The unused names are those that there are without the earlier list, and what is left over. -/
theorem unusedName_list_again_iff {parameters : Parameters}
    (hundeclared : ∀ name, Leftover key xs ys name → name ∉ parameters.declaredNames) :
    UnusedName ((b.addNameds (listArguments key xs)).addNameds (listArguments key ys)) parameters
        name ↔
      (b.addNameds (listArguments key ys)).UnusedName parameters name ∨
        Leftover key xs ys name := by
  by_cases hleft : Leftover key xs ys name
  · simp only [UnusedName, hleft, or_true, iff_true]
    exact ⟨b.get?_list_again_of_leftover hleft, hundeclared name hleft⟩
  · rw [UnusedName, UnusedName, b.get?_list_again_of_not_leftover hleft]
    simp [hleft]

end

end Binding

/-! ## A list bound twice -/

theorem Statement.apply_list_again (st : Statement) {key : String} {xs ys : List Value}
    (hkey : Draft.isListKey key = true) (hxs : xs ≠ []) (hys : ys ≠ []) :
    [BindCall.list key xs, .list key ys].foldlM Statement.apply st =
      .ok { st with draft :=
        ⟨(st.draft.binding.addNameds (Draft.listArguments key xs)).addNameds
            (Draft.listArguments key ys),
          st.draft.attributes.define key
            (Draft.listMarkers st.config.style key ys.length)⟩ } := by
  rw [st.apply_lists hkey hkey hxs hys, Attributes.define_define]

/-- A list bound again is the only list there is when it is not shorter. When it is shorter, the
parameters that only the earlier list has stay bound. If the template declares none of them, a
rendering that allows unused arguments ends as without the earlier list, and so does a strict one
that finds something else wrong first; any other strict one reports what is left over, together with
the names that are unused anyway. -/
theorem list_again_leaves_rest (st : Statement) {key : String} {xs ys : List Value}
    (hkey : Draft.isListKey key = true) (hxs : xs ≠ []) (hys : ys ≠ []) :
    ∃ again alone, [BindCall.list key xs, .list key ys].foldlM Statement.apply st = .ok again ∧
      st.apply (.list key ys) = .ok alone ∧ (xs.length ≤ ys.length → again = alone) ∧
      ∀ S : Session, S.Faithful st.config →
        match st.config.prepared alone.draft.attributes st.template with
        | .error _ => Rendered.EndAlike (again.render.run S) (alone.render.run S)
        | .ok (text, query) =>
          let violated := alone.draft.binding.Violated ⟨text, query, alone.draft.attributes⟩
            query.parameters
          (∀ name, Draft.Leftover key xs ys name → name ∉ query.parameters.declaredNames) →
          (st.config.allowUnused = true ∨
              (∃ kind ∈ query.parameters.kindsBeforeUnusedNames, violated kind) →
            Rendered.EndAlike (again.render.run S) (alone.render.run S)) ∧
          (st.config.allowUnused = false → ys.length < xs.length →
            (∀ kind ∈ query.parameters.kindsBeforeUnusedNames, ¬ violated kind) →
            ∃ failure names, (again.render.run S).1 = .error failure ∧
              failure.cause = .mismatch (.unusedNamed names) ∧
              Binding.Enumerates (· < ·) (fun name =>
                alone.draft.binding.UnusedName query.parameters name ∨
                  Draft.Leftover key xs ys name) names) := by
  let again : Statement := { st with draft :=
    ⟨(st.draft.binding.addNameds (Draft.listArguments key xs)).addNameds
        (Draft.listArguments key ys),
      st.draft.attributes.define key (Draft.listMarkers st.config.style key ys.length)⟩ }
  let alone : Statement := { st with draft :=
    ⟨st.draft.binding.addNameds (Draft.listArguments key ys),
      st.draft.attributes.define key (Draft.listMarkers st.config.style key ys.length)⟩ }
  refine ⟨again, alone, st.apply_list_again hkey hxs hys, st.apply_list hkey hys, ?_, ?_⟩
  · intro hlength
    simp only [again, alone, st.draft.binding.addNameds_list_again hlength]
  · intro S hS
    have hagain : S.Faithful again.config := hS
    have htemplate : again.template = alone.template := rfl
    have hconfig : again.config = alone.config := rfl
    have hattributes : again.draft.attributes = alone.draft.attributes := rfl
    cases hprepared : st.config.prepared alone.draft.attributes st.template with
    | error failure =>
        refine Statement.endAlike_of_resolve hagain htemplate hconfig hattributes
          fun text query hok => ?_
        exact absurd (hprepared.symm.trans hok) (by simp)
    | ok pair =>
        obtain ⟨text, query⟩ := pair
        intro hundeclared
        obtain ⟨halike, hunused⟩ := Statement.endAlike_or_unused hagain htemplate hconfig
          hattributes hprepared (st.draft.binding.agreesOn_list_again hundeclared)
        refine ⟨halike, fun hstrict hlength hbefore => ?_⟩
        have hiff : ∀ name, again.draft.binding.UnusedName query.parameters name ↔
            alone.draft.binding.UnusedName query.parameters name ∨
              Draft.Leftover key xs ys name :=
          fun _ => st.draft.binding.unusedName_list_again_iff hundeclared
        have hleft : Draft.Leftover key xs ys (Draft.listParameter key ys.length) :=
          ⟨ys.length, Nat.le_refl _, hlength, rfl⟩
        obtain ⟨failure, names, hrun, hcause, hordered, hnames⟩ :=
          hunused hstrict ⟨_, (hiff _).mpr (.inr hleft)⟩ hbefore
        exact ⟨failure, names, hrun, hcause, hordered, fun name => (hnames name).trans (hiff name)⟩

/-! ## A shorter list -/

/-- Numbers as they are bound. -/
def oneToFour : Fin 4 → Value
  | 0 => .integer .int32 (some ⟨1, by decide⟩)
  | 1 => .integer .int32 (some ⟨2, by decide⟩)
  | 2 => .integer .int32 (some ⟨3, by decide⟩)
  | 3 => .integer .int32 (some ⟨4, by decide⟩)

/-- A strict statement without arguments. -/
def selection : Statement :=
  Statement.create (.standard 0) "select * from t where id in (<ids>)"

theorem prepared_selection :
    (Config.standard 0).prepared (Attributes.empty.define "ids" ":__ids_0") selection.template =
      .ok ("select * from t where id in (:__ids_0)",
        ⟨"select * from t where id in (?)", .named ["__ids_0"]⟩) := by
  refine Config.prepared_of_ok rfl ?_ ?_ <;> cbv

theorem apply_selection :
    selection.apply (.list "ids" [oneToFour 3]) =
      .ok ⟨selection.template, .standard 0,
        ⟨Binding.empty.addNameds [("__ids_0", .value (oneToFour 3))],
          Attributes.empty.define "ids" ":__ids_0"⟩⟩ := by
  rw [selection.apply_list (by decide) (by simp)]
  rfl

/-- With three numbers and then one, the names of the last two of the three are left over. -/
theorem list_again_leaves_rest_shorter :
    Draft.isListKey "ids" = true ∧ [oneToFour 0, oneToFour 1, oneToFour 2] ≠ [] ∧
      [oneToFour 3] ≠ [] ∧
    ∃ again, [BindCall.list "ids" [oneToFour 0, oneToFour 1, oneToFour 2],
        .list "ids" [oneToFour 3]].foldlM Statement.apply selection = .ok again ∧
      ∃ failure names,
        (again.render.run (Session.empty.addCache (.ofCapacity 1))).1 = .error failure ∧
        failure.cause = .mismatch (.unusedNamed names) ∧ "__ids_1" ∈ names ∧ "__ids_2" ∈ names := by
  have hkey : Draft.isListKey "ids" = true := by decide
  refine ⟨hkey, by simp, by simp, ?_⟩
  obtain ⟨again, alone, hagain, halone, -, hrender⟩ := @list_again_leaves_rest selection "ids"
    [oneToFour 0, oneToFour 1, oneToFour 2] [oneToFour 3] hkey (by simp) (by simp)
  obtain rfl := Except.ok.inj (halone.symm.trans apply_selection)
  have hstrict :=
    hrender (Session.empty.addCache (.ofCapacity 1)) (QueryCache.Faithful.of_empty rfl)
  rw [show selection.config = .standard 0 from rfl] at hstrict
  simp only [prepared_selection] at hstrict
  have hundeclared : ∀ name, Draft.Leftover "ids" [oneToFour 0, oneToFour 1, oneToFour 2]
      [oneToFour 3] name → name ∉ ["__ids_0"] := by
    rintro name ⟨i, hi, -, rfl⟩ hmem
    have hzero : Draft.listParameter "ids" i = Draft.listParameter "ids" 0 :=
      List.mem_singleton.mp hmem
    rw [Draft.listParameter_injective "ids" hzero] at hi
    exact absurd hi (by decide)
  obtain ⟨failure, names, hrun, hcause, -, hnames⟩ :=
    (hstrict hundeclared).2 rfl (by decide) (by
      intro kind hkind
      obtain rfl := List.mem_singleton.mp hkind
      exact Binding.report?_eq_none_iff.mp rfl)
  exact ⟨again, hagain, failure, names, hrun, hcause,
    (hnames _).mpr (.inr ⟨1, by decide, by decide, rfl⟩),
    (hnames _).mpr (.inr ⟨2, by decide, by decide, rfl⟩)⟩

/-- The same calls fail where the second one alone renders. -/
theorem list_again_shorter_fails :
    let S := Session.empty.addCache (.ofCapacity 1)
    ∃ again alone,
      [BindCall.list "ids" [oneToFour 0, oneToFour 1, oneToFour 2],
        .list "ids" [oneToFour 3]].foldlM Statement.apply selection = .ok again ∧
      selection.apply (.list "ids" [oneToFour 3]) = .ok alone ∧
      (alone.render.run S).1.map (·.arguments) = .ok [.ofValue (oneToFour 3)] ∧
      ((again.render.run S).1.mapError Failure.cause).map (·.arguments) =
        .error (.mismatch (.unusedNamed ["__ids_1", "__ids_2"])) := by
  intro S
  let attributes := Attributes.empty.define "ids" ":__ids_0"
  let text := "select * from t where id in (:__ids_0)"
  let query : Query := ⟨"select * from t where id in (?)", .named ["__ids_0"]⟩
  let alone := Binding.empty.addNameds [("__ids_0", .value (oneToFour 3))]
  let again := (Binding.empty.addNameds [("__ids_0", .value (oneToFour 0)),
    ("__ids_1", .value (oneToFour 1)), ("__ids_2", .value (oneToFour 2))]).addNameds
      [("__ids_0", .value (oneToFour 3))]
  have hS : S.Faithful (.standard 0) := QueryCache.Faithful.of_empty rfl
  have hcalls : [BindCall.list "ids" [oneToFour 0, oneToFour 1, oneToFour 2],
        .list "ids" [oneToFour 3]].foldlM Statement.apply selection =
      .ok ⟨selection.template, .standard 0, ⟨again, attributes⟩⟩ := by
    rw [selection.apply_list_again (by decide) (by simp) (by simp)]
    rfl
  have hanswer : alone.answer ⟨text, query, attributes⟩ false [] =
      (.ok [.ofValue (oneToFour 3)], []) := rfl
  have hmismatch : again.mismatch? ⟨text, query, attributes⟩ query.parameters false =
      some (.unusedNamed ["__ids_1", "__ids_2"]) := rfl
  refine ⟨_, _, hcalls, apply_selection, ?_, ?_⟩
  · obtain ⟨entry, S', -, hrun⟩ := Statement.render_of_answer
      ⟨selection.template, .standard 0, ⟨alone, attributes⟩⟩ hS prepared_selection hanswer
    rw [hrun]
    rfl
  · obtain ⟨failure, hrun, hcause⟩ := @Statement.render_of_mismatch
      ⟨selection.template, .standard 0, ⟨again, attributes⟩⟩ S hS text query prepared_selection _
        hmismatch
    rw [hrun]
    exact congrArg Except.error hcause

end SqlTemplate
