import SqlTemplate.Proofs.ResolutionRun

/-!
# Which mismatch is reported

A class of mismatches is violated when something offends against it. The classes are looked through
in an order that depends on the parameters, those of unused arguments only when these are not
allowed. A resolution reports the first violated class with all its offenders, and when none is
violated it does not report a mismatch at all.
-/

namespace SqlTemplate

/-- The classes of mismatches. -/
inductive MismatchKind where
  | missingPositional
  | unusedPositional
  | missingNamed
  | unusedNamed
  deriving DecidableEq

/-- The class of a mismatch. -/
def Mismatch.kind : Mismatch → MismatchKind
  | missingPositional _ => .missingPositional
  | unusedPositional _ => .unusedPositional
  | missingNamed _ => .missingNamed
  | unusedNamed _ => .unusedNamed

namespace Parameters

/-- The number of positions that are declared. -/
def declaredCount : Parameters → Nat
  | positional count => count
  | named _ => 0

/-- The names that are declared, one for each placeholder. -/
def declaredNames : Parameters → List String
  | positional _ => []
  | named names => names

/-- The classes that apply to parameters, in the order in which they are looked through. -/
def mismatchKinds (parameters : Parameters) (allowUnused : Bool) : List MismatchKind :=
  match parameters with
  | positional _ =>
    .missingPositional :: if allowUnused then [] else [.unusedPositional, .unusedNamed]
  | named _ =>
    .missingNamed :: if allowUnused then [] else [.unusedNamed, .unusedPositional]

end Parameters

namespace Binding

/-! ## Offenders -/

/-- A declared position with nothing bound to it. -/
def MissingPosition (b : Binding) (parameters : Parameters) (i : Nat) : Prop :=
  i < parameters.declaredCount ∧ b.positional.get? i = none

/-- A position with an argument that is not declared. -/
def UnusedPosition (b : Binding) (parameters : Parameters) (i : Nat) : Prop :=
  b.positional.get? i ≠ none ∧ parameters.declaredCount ≤ i

/-- A declared name with nothing bound to it, and no finder that answers it. -/
def MissingName (b : Binding) (site : BindingSite) (parameters : Parameters) (name : String) :
    Prop :=
  name ∈ parameters.declaredNames ∧ b.named.get? name = none ∧
    ∀ finder ∈ b.finders, finder.find? site name = none

/-- A name with an argument of its own that is not declared. -/
def UnusedName (b : Binding) (parameters : Parameters) (name : String) : Prop :=
  b.named.get? name ≠ none ∧ name ∉ parameters.declaredNames

/-- Whether anything offends against a class. -/
def Violated (b : Binding) (site : BindingSite) (parameters : Parameters) : MismatchKind → Prop
  | .missingPositional => ∃ i, b.MissingPosition parameters i
  | .unusedPositional => ∃ i, b.UnusedPosition parameters i
  | .missingNamed => ∃ name, b.MissingName site parameters name
  | .unusedNamed => ∃ name, b.UnusedName parameters name

/-- Whether a list has exactly the elements with a property, each once and in the order `r`. -/
def Enumerates {α : Type} (r : α → α → Prop) (p : α → Prop) (l : List α) : Prop :=
  l.Pairwise r ∧ ∀ a, a ∈ l ↔ p a

/-- The order in which names first appear in a list. -/
def AppearsBefore (names : List String) (x y : String) : Prop :=
  names.idxOf x < names.idxOf y

/-- Whether a mismatch lists the offenders against its class: missing names as they first appear
among the parameters, everything else ascending. -/
def Lists (b : Binding) (site : BindingSite) (parameters : Parameters) : Mismatch → Prop
  | .missingPositional positions =>
    Enumerates (· < ·) (b.MissingPosition parameters) positions
  | .unusedPositional positions =>
    Enumerates (· < ·) (b.UnusedPosition parameters) positions
  | .missingNamed names =>
    Enumerates (AppearsBefore parameters.declaredNames) (b.MissingName site parameters) names
  | .unusedNamed names =>
    Enumerates (· < ·) (b.UnusedName parameters) names

/-- The mismatch of the first violated class, with all offenders. -/
def FirstViolated (b : Binding) (site : BindingSite) (parameters : Parameters)
    (allowUnused : Bool) (m : Mismatch) : Prop :=
  ∃ earlier later, parameters.mismatchKinds allowUnused = earlier ++ m.kind :: later ∧
    (∀ kind ∈ earlier, ¬ b.Violated site parameters kind) ∧
    b.Violated site parameters m.kind ∧ b.Lists site parameters m

/-! ## Lists in order -/

/-- There is only one way to enumerate in a strict order. -/
theorem Enumerates.unique {α : Type} {r : α → α → Prop} {p : α → Prop} {l l' : List α}
    (hasymm : ∀ a b, r a b → ¬ r b a) (hl : Enumerates r p l) (hl' : Enumerates r p l') :
    l = l' := by
  have hnodup : ∀ {k : List α}, k.Pairwise r → k.Nodup := by
    intro k hk
    refine List.nodup_iff_pairwise_ne.mpr (hk.imp ?_)
    rintro a _ hlt rfl
    exact hasymm a a hlt hlt
  have hmem : ∀ a, a ∈ l ↔ a ∈ l' := fun a => (hl.2 a).trans (hl'.2 a).symm
  have hperm : l.Perm l' := (List.perm_ext_iff_of_nodup (hnodup hl.1) (hnodup hl'.1)).mpr hmem
  exact hperm.eq_of_pairwise (fun a b _ _ hlt hgt => (hasymm a b hlt hgt).elim) hl.1 hl'.1

theorem Enumerates.eq_nil_iff {α : Type} {r : α → α → Prop} {p : α → Prop} {l : List α}
    (hl : Enumerates r p l) : l = [] ↔ ¬ ∃ a, p a := by
  rw [List.eq_nil_iff_forall_not_mem, not_exists]
  exact forall_congr' fun a => not_congr (hl.2 a)

/-- A mismatch is determined by its class. -/
theorem Lists.unique {b : Binding} {site : BindingSite} {parameters : Parameters}
    {m m' : Mismatch} (hm : b.Lists site parameters m) (hm' : b.Lists site parameters m')
    (hkind : m.kind = m'.kind) : m = m' := by
  cases m <;> cases m' <;> simp only [Mismatch.kind, reduceCtorEq] at hkind
  · exact congrArg _ (Enumerates.unique (fun _ _ => Nat.lt_asymm) hm hm')
  · exact congrArg _ (Enumerates.unique (fun _ _ => Nat.lt_asymm) hm hm')
  · exact congrArg _ (Enumerates.unique (fun _ _ => Nat.lt_asymm) hm hm')
  · exact congrArg _ (Enumerates.unique (fun _ _ => String.lt_asymm) hm hm')

theorem idxOf_lt_of_filter {p : String → Bool} {x y : String} (hy : p y = true)
    (names : List String) (hlt : AppearsBefore (names.filter p) x y) :
    AppearsBefore names x y := by
  unfold AppearsBefore at hlt ⊢
  induction names with
  | nil => simp at hlt
  | cons name names ih =>
      rw [List.filter_cons] at hlt
      split at hlt <;> grind

/-- Names without repeats stand in the order of their first appearance. -/
theorem pairwise_eraseDups (names : List String) :
    names.eraseDups.Pairwise (AppearsBefore names) := by
  cases names with
  | nil => exact List.Pairwise.nil
  | cons name rest =>
      have hrest := pairwise_eraseDups (rest.filter fun x => !x == name)
      rw [List.eraseDups_cons, List.pairwise_cons]
      constructor
      · intro x hx
        rw [List.mem_eraseDups, List.mem_filter] at hx
        grind [AppearsBefore]
      · -- Both names differ from the first one, which stands in front of their first places.
        refine hrest.imp_of_mem ?_
        intro x y hx hy hlt
        rw [List.mem_eraseDups, List.mem_filter] at hx hy
        have hidx : AppearsBefore rest x y :=
          idxOf_lt_of_filter (p := fun x => !x == name) hy.2 rest hlt
        grind [AppearsBefore]
termination_by names.length
decreasing_by
  exact Nat.lt_succ_of_le (List.length_filter_le _ _)

/-! ## Reports -/

/-- The offenders against a class as a mismatch, if there are any. -/
def report? (b : Binding) (site : BindingSite) (parameters : Parameters) :
    MismatchKind → Option Mismatch
  | .missingPositional => positionClass .missingPositional
      ((List.range parameters.declaredCount).filter fun i => !b.positional.contains i)
  | .unusedPositional => positionClass .unusedPositional
      (b.positional.keys.filter fun i => parameters.declaredCount ≤ i)
  | .missingNamed => nameClass .missingNamed
      (parameters.declaredNames.eraseDups.filter fun name => (b.source? site name).isNone)
  | .unusedNamed => nameClass .unusedNamed
      (b.named.keys.filter fun name => !parameters.declaredNames.contains name)

/-- The classes that apply are looked through in their order. -/
theorem mismatch?_eq_findSome? (b : Binding) (site : BindingSite) (parameters : Parameters)
    (allowUnused : Bool) :
    b.mismatch? site parameters allowUnused =
      (parameters.mismatchKinds allowUnused).findSome? (b.report? site parameters) := by
  cases parameters with
  | positional count =>
      -- No name is declared, so whatever is bound to a name is unused.
      have hreport : b.report? site (.positional count) .unusedNamed =
          nameClass .unusedNamed b.named.keys :=
        congrArg (nameClass .unusedNamed) (List.filter_eq_self.mpr fun _ _ => rfl)
      cases allowUnused with
      | true => rfl
      | false =>
          show _ = List.findSome? (b.report? site (.positional count))
            [.missingPositional, .unusedPositional, .unusedNamed]
          rw [List.findSome?_cons, List.findSome?_cons, List.findSome?_cons, hreport]
          rfl
  | named names =>
      -- And no position here.
      have hreport : b.report? site (.named names) .unusedPositional =
          positionClass .unusedPositional b.positional.keys :=
        congrArg (positionClass .unusedPositional)
          (List.filter_eq_self.mpr fun i _ => decide_eq_true (Nat.zero_le i))
      cases allowUnused with
      | true => rfl
      | false =>
          show _ = List.findSome? (b.report? site (.named names))
            [.missingNamed, .unusedNamed, .unusedPositional]
          rw [List.findSome?_cons, List.findSome?_cons, List.findSome?_cons, hreport]
          rfl

theorem enumerates_missingPosition (b : Binding) (parameters : Parameters) :
    Enumerates (· < ·) (b.MissingPosition parameters)
      ((List.range parameters.declaredCount).filter fun i => !b.positional.contains i) := by
  refine ⟨List.pairwise_lt_range.filter _, fun i => ?_⟩
  simp [MissingPosition, Table.contains]

theorem enumerates_unusedPosition (b : Binding) (parameters : Parameters) :
    Enumerates (· < ·) (b.UnusedPosition parameters)
      (b.positional.keys.filter fun i => parameters.declaredCount ≤ i) := by
  refine ⟨b.positional.keys_ascending.filter _, fun i => ?_⟩
  rw [List.mem_filter, Table.mem_keys_iff, UnusedPosition, decide_eq_true_iff]

theorem source?_eq_none_iff (b : Binding) (site : BindingSite) (name : String) :
    b.source? site name = none ↔
      b.named.get? name = none ∧ ∀ finder ∈ b.finders, finder.find? site name = none := by
  unfold source?
  cases b.named.get? name with
  | some argument => simp
  | none => simp

theorem enumerates_missingName (b : Binding) (site : BindingSite) (parameters : Parameters) :
    Enumerates (AppearsBefore parameters.declaredNames) (b.MissingName site parameters)
      (parameters.declaredNames.eraseDups.filter fun name => (b.source? site name).isNone) := by
  refine ⟨(pairwise_eraseDups _).filter _, fun name => ?_⟩
  rw [List.mem_filter, List.mem_eraseDups, Option.isNone_iff_eq_none, source?_eq_none_iff,
    MissingName]

theorem enumerates_unusedName (b : Binding) (parameters : Parameters) :
    Enumerates (· < ·) (b.UnusedName parameters)
      (b.named.keys.filter fun name => !parameters.declaredNames.contains name) := by
  refine ⟨b.named.keys_ascending.filter _, fun name => ?_⟩
  rw [List.mem_filter, Table.mem_keys_iff, UnusedName]
  simp

/-- What is found of a class: its offenders as a mismatch, or nothing when it is not violated. -/
def Reported (b : Binding) (site : BindingSite) (parameters : Parameters) (kind : MismatchKind)
    (found : Option Mismatch) : Prop :=
  (found = none ∧ ¬ b.Violated site parameters kind) ∨
    ∃ m, found = some m ∧ m.kind = kind ∧ b.Violated site parameters kind ∧
      b.Lists site parameters m

variable {b : Binding} {site : BindingSite} {parameters : Parameters} {allowUnused : Bool}
  {kind : MismatchKind} {m : Mismatch}

theorem reported_of_enumerates {α : Type} {make : List α → Mismatch} {r : α → α → Prop}
    {p : α → Prop} {l : List α} [Decidable (l = [])] (hl : Enumerates r p l)
    (hviolated : b.Violated site parameters kind ↔ ∃ a, p a) (hkind : (make l).kind = kind)
    (hlists : b.Lists site parameters (make l)) :
    b.Reported site parameters kind (if l = [] then none else some (make l)) := by
  by_cases hnil : l = []
  · refine Or.inl ⟨if_pos hnil, fun h => ?_⟩
    exact hl.eq_nil_iff.mp hnil (hviolated.mp h)
  · refine Or.inr ⟨make l, if_neg hnil, hkind, hviolated.mpr ?_, hlists⟩
    by_contra hnone
    exact hnil (hl.eq_nil_iff.mpr hnone)

theorem reported_report? (b : Binding) (site : BindingSite) (parameters : Parameters)
    (kind : MismatchKind) :
    b.Reported site parameters kind (b.report? site parameters kind) := by
  cases kind with
  | missingPositional =>
      have hl := b.enumerates_missingPosition parameters
      exact reported_of_enumerates hl Iff.rfl rfl hl
  | unusedPositional =>
      have hl := b.enumerates_unusedPosition parameters
      exact reported_of_enumerates hl Iff.rfl rfl hl
  | missingNamed =>
      have hl := b.enumerates_missingName site parameters
      exact reported_of_enumerates hl Iff.rfl rfl hl
  | unusedNamed =>
      have hl := b.enumerates_unusedName parameters
      exact reported_of_enumerates hl Iff.rfl rfl hl

theorem report?_eq_none_iff :
    b.report? site parameters kind = none ↔ ¬ b.Violated site parameters kind := by
  rcases b.reported_report? site parameters kind with
    ⟨hnone, hviolated⟩ | ⟨m, hsome, _, hviolated, _⟩
  · simp [hnone, hviolated]
  · simp [hsome, hviolated]

theorem report?_eq_some_iff :
    b.report? site parameters kind = some m ↔
      m.kind = kind ∧ b.Violated site parameters kind ∧ b.Lists site parameters m := by
  rcases b.reported_report? site parameters kind with
    ⟨hnone, hviolated⟩ | ⟨m', hsome, hkind, hviolated, hlists⟩
  · simp [hnone, hviolated]
  · constructor
    · intro h
      obtain rfl := Option.some.inj (hsome.symm.trans h)
      exact ⟨hkind, hviolated, hlists⟩
    · rintro ⟨hm, _, hm'⟩
      rw [hsome, hlists.unique hm' (hkind.trans hm.symm)]

/-- The mismatch is that of the first violated class. -/
theorem mismatch?_eq_some_iff :
    b.mismatch? site parameters allowUnused = some m ↔
      b.FirstViolated site parameters allowUnused m := by
  rw [mismatch?_eq_findSome?, List.findSome?_eq_some_iff]
  constructor
  · rintro ⟨earlier, kind, later, hkinds, hfound, hearlier⟩
    obtain ⟨rfl, hviolated, hlists⟩ := report?_eq_some_iff.mp hfound
    exact ⟨earlier, later, hkinds, fun k hk => report?_eq_none_iff.mp (hearlier k hk), hviolated,
      hlists⟩
  · rintro ⟨earlier, later, hkinds, hearlier, hviolated, hlists⟩
    exact ⟨earlier, m.kind, later, hkinds, report?_eq_some_iff.mpr ⟨rfl, hviolated, hlists⟩,
      fun k hk => report?_eq_none_iff.mpr (hearlier k hk)⟩

theorem mismatch?_eq_none_iff :
    b.mismatch? site parameters allowUnused = none ↔
      ∀ kind ∈ parameters.mismatchKinds allowUnused, ¬ b.Violated site parameters kind := by
  rw [mismatch?_eq_findSome?, List.findSome?_eq_none_iff]
  exact forall₂_congr fun kind _ => report?_eq_none_iff

/-! ## What a resolution reports -/

/-- The failure of a supplier that is the source of a parameter. -/
inductive SupplierFailure (b : Binding) (site : BindingSite) : Parameters → Failure → Prop
  | positional {count i : Nat} {s : Supplier} {h : History} {cause : Failure} :
      i < count → b.positional.get? i = some (.supplier s) → s.answer h = .error cause →
      SupplierFailure b site (.positional count)
        (.context ("Cannot compute the argument " ++ ("at position " ++ toString i)) cause)
  | named {names : List String} {name : String} {s : Supplier} {h : History} {cause : Failure} :
      name ∈ names → b.source? site name = some (.supplier s) → s.answer h = .error cause →
      SupplierFailure b site (.named names)
        (.context ("Cannot compute the argument " ++ ("for parameter `" ++ name ++ "`")) cause)

theorem SupplierFailure.ne_mismatch {failure : Failure}
    (hfailure : b.SupplierFailure site parameters failure) (m : Mismatch) :
    failure ≠ .mismatch m := by
  cases hfailure <;> simp

theorem mem_positionalSources {count i : Nat} {argument : Argument}
    (hmem : (i, argument) ∈ b.positionalSources count) :
    i < count ∧ b.positional.get? i = some argument := by
  obtain ⟨hentry, hi⟩ := List.mem_filter.mp hmem
  exact ⟨of_decide_eq_true hi, (b.positional.mem_entries_iff i argument).mp hentry⟩

theorem mem_namedSources {names : List String} {name : String} {argument : Argument}
    (hmem : (name, argument) ∈ b.namedSources site names) :
    name ∈ names ∧ b.source? site name = some argument := by
  obtain ⟨key, hkey, hsource⟩ := List.mem_filterMap.mp hmem
  obtain ⟨own, hown, hpair⟩ := Option.map_eq_some_iff.mp hsource
  obtain ⟨rfl, rfl⟩ := Prod.mk.inj hpair
  exact ⟨List.mem_eraseDups.mp hkey, hown⟩

/-- A resolution that does not mismatch gives arguments, or fails because a supplier does. -/
theorem Resolves.cases {h h' : History} {outcome : Except Failure (List Resolved)}
    (hresolves : b.Resolves site allowUnused h parameters outcome h') :
    (∃ m, b.mismatch? site parameters allowUnused = some m ∧ outcome = .error (.mismatch m)) ∨
      b.mismatch? site parameters allowUnused = none ∧
        ((∃ args, outcome = .ok args) ∨
          ∃ failure, b.SupplierFailure site parameters failure ∧ outcome = .error failure) := by
  cases hresolves with
  | mismatch hmismatch => exact Or.inl ⟨_, hmismatch, rfl⟩
  | @positional count outcome h' hmismatch hall =>
      refine Or.inr ⟨hmismatch, ?_⟩
      cases outcome with
      | ok realized => exact Or.inl ⟨_, rfl⟩
      | error failure =>
          obtain ⟨i, s, h₁, cause, hmem, hanswer, rfl⟩ := hall.refusal rfl
          obtain ⟨hi, hbound⟩ := mem_positionalSources hmem
          exact Or.inr ⟨_, .positional hi hbound hanswer, rfl⟩
  | @named names asked outcome h' hmismatch _ hall =>
      refine Or.inr ⟨hmismatch, ?_⟩
      cases outcome with
      | ok realized => exact Or.inl ⟨_, rfl⟩
      | error failure =>
          obtain ⟨name, s, h₁, cause, hmem, hanswer, rfl⟩ := hall.refusal rfl
          obtain ⟨hname, hsource⟩ := mem_namedSources hmem
          exact Or.inr ⟨_, .named hname hsource hanswer, rfl⟩

/-- On a session a failure is shown with the binding and the query. -/
theorem resolveParameters_result (b : Binding) (parameters : Parameters) (site : BindingSite)
    (allowUnused : Bool) (session : Session) :
    ((b.resolveParameters parameters site allowUnused).run session).1 =
      ((b.resolve parameters site allowUnused).run session.history).1.mapError
        (b.resolutionFailure site) := by
  rw [resolveParameters_run]
  cases (b.resolve parameters site allowUnused).run session.history with
  | mk result history => cases result <;> rfl

theorem resolutionFailure_inj {failure failure' : Failure}
    (heq : b.resolutionFailure site failure = b.resolutionFailure site failure') :
    failure = failure' :=
  (Failure.context.inj heq).2

/-- How a resolution ends on a session. -/
theorem resolveParameters_cases (b : Binding) (parameters : Parameters) (site : BindingSite)
    (allowUnused : Bool) (session : Session) :
    let result := ((b.resolveParameters parameters site allowUnused).run session).1
    (∃ m, b.mismatch? site parameters allowUnused = some m ∧
        result = .error (b.resolutionFailure site (.mismatch m))) ∨
      b.mismatch? site parameters allowUnused = none ∧
        ((∃ args, result = .ok args) ∨ ∃ failure, b.SupplierFailure site parameters failure ∧
          result = .error (b.resolutionFailure site failure)) := by
  intro result
  have hresult : result = _ := b.resolveParameters_result parameters site allowUnused session
  rcases (b.resolves_run parameters site allowUnused session.history).cases with
    ⟨m, hmismatch, houtcome⟩ | ⟨hnone, ⟨args, houtcome⟩ | ⟨failure, hfailure, houtcome⟩⟩
  · exact Or.inl ⟨m, hmismatch, by rw [hresult, houtcome]; rfl⟩
  · exact Or.inr ⟨hnone, Or.inl ⟨args, by rw [hresult, houtcome]; rfl⟩⟩
  · exact Or.inr ⟨hnone, Or.inr ⟨failure, hfailure, by rw [hresult, houtcome]; rfl⟩⟩

theorem resolveParameters_mismatch_iff (b : Binding) (parameters : Parameters)
    (site : BindingSite) (allowUnused : Bool) (session : Session) (m : Mismatch) :
    ((b.resolveParameters parameters site allowUnused).run session).1 =
        .error (b.resolutionFailure site (.mismatch m)) ↔
      b.mismatch? site parameters allowUnused = some m := by
  rcases b.resolveParameters_cases parameters site allowUnused session with
    ⟨m', hmismatch, hresult⟩ | ⟨hnone, ⟨args, hresult⟩ | ⟨failure, hfailure, hresult⟩⟩
  · rw [hresult, hmismatch]
    constructor
    · intro heq
      rw [Failure.mismatch.inj (resolutionFailure_inj (Except.error.inj heq))]
    · intro heq
      rw [Option.some.inj heq]
  · rw [hresult, hnone]
    simp
  · -- What a supplier answers stands under a context of its own, even if it is a mismatch.
    rw [hresult, hnone]
    constructor
    · intro heq
      exact absurd (resolutionFailure_inj (Except.error.inj heq)) (hfailure.ne_mismatch m)
    · simp

end Binding

/-- A resolution reports the first violated class with all its offenders, and it reports a mismatch
exactly when a class that applies is violated. Otherwise it gives arguments, or fails with what a
supplier of a parameter answers. Names that only finders announce do not count as unused. -/
theorem resolve_reports_first_violated (b : Binding) (parameters : Parameters)
    (site : BindingSite) (allowUnused : Bool) (session : Session) :
    let result := ((b.resolveParameters parameters site allowUnused).run session).1
    (∀ m, result = .error (b.resolutionFailure site (.mismatch m)) ↔
      b.FirstViolated site parameters allowUnused m) ∧
    ((∃ m, result = .error (b.resolutionFailure site (.mismatch m))) ↔
      ∃ kind ∈ parameters.mismatchKinds allowUnused, b.Violated site parameters kind) ∧
    ((∀ kind ∈ parameters.mismatchKinds allowUnused, ¬ b.Violated site parameters kind) →
      (∃ args, result = .ok args) ∨ ∃ failure, b.SupplierFailure site parameters failure ∧
        result = .error (b.resolutionFailure site failure)) ∧
    ∀ names, result = .error (b.resolutionFailure site (.mismatch (.unusedNamed names))) →
      ∀ finder ∈ b.finders, ∀ name ∈ finder.names, b.named.get? name = none → name ∉ names := by
  intro result
  have hmismatch := b.resolveParameters_mismatch_iff parameters site allowUnused session
  refine ⟨fun m => (hmismatch m).trans Binding.mismatch?_eq_some_iff, ?_, ?_, ?_⟩
  · rw [exists_congr hmismatch, ← Option.ne_none_iff_exists', Ne,
      Binding.mismatch?_eq_none_iff]
    push Not
    rfl
  · intro hviolated
    have hnone := Binding.mismatch?_eq_none_iff.mpr hviolated
    rcases b.resolveParameters_cases parameters site allowUnused session with
      ⟨m, hsome, _⟩ | ⟨_, hresult⟩
    · rw [hnone] at hsome
      exact absurd hsome (by simp)
    · exact hresult
  · intro names hnames finder _ name _ hunbound hmem
    obtain ⟨_, _, _, _, _, hlists⟩ := Binding.mismatch?_eq_some_iff.mp ((hmismatch _).mp hnames)
    exact ((hlists.2 name).mp hmem).1 hunbound

end SqlTemplate
