import Mathlib.Data.List.Basic
import SqlTemplate.Session

/-!
# What a resolution does

A resolution looks for the sources of the parameters, compares, and realizes. Looking for sources
does nothing to the session but to record whom it asked, so the sources are a function of the
binding; realizing calls suppliers, each of which sees the history so far. `RealizesAll` and
`Resolves` say how these phases can end and with which history, and later proofs go through their
cases.
-/

namespace SqlTemplate

/-! ## Runs -/

section Runs

variable {σ α β : Type} {action : ExceptT Failure (StateM σ) α}
  {f : α → ExceptT Failure (StateM σ) β} {s s' : σ}

theorem run_bind_of_ok {a : α} (hrun : action.run s = (.ok a, s')) :
    (action >>= f).run s = (f a).run s' := by
  show (ExceptT.bindCont f (action.run s).1).run (action.run s).2 = _
  rw [hrun]
  rfl

theorem run_bind_of_error {failure : Failure} (hrun : action.run s = (.error failure, s')) :
    (action >>= f).run s = (.error failure, s') := by
  show (ExceptT.bindCont f (action.run s).1).run (action.run s).2 = _
  rw [hrun]
  rfl

/-- A computation that cannot fail in front of one that can. -/
theorem run_bind_lift {action : StateM σ α} {a : α} (hrun : action.run s = (a, s')) :
    ((liftM action : ExceptT Failure (StateM σ) α) >>= f).run s = (f a).run s' := by
  show (f (action.run s).1).run (action.run s).2 = _
  rw [hrun]

theorem run_bind_pure (action : ExceptT Failure (StateM σ) α) (f : α → β) (s : σ) :
    (action >>= fun a => pure (f a)).run s = ((action.run s).1.map f, (action.run s).2) := by
  obtain ⟨result, s', hrun⟩ : ∃ result s', action.run s = (result, s') := ⟨_, _, rfl⟩
  rw [hrun]
  cases result with
  | error failure => exact run_bind_of_error hrun
  | ok a => exact run_bind_of_ok hrun

end Runs

/-! ## Realizing an argument -/

/-- An argument realized after a history, with the history from then on. -/
inductive Realizes : History → Argument → Resolved → History → Prop
  | value {h : History} {v : Value} : Realizes h (.value v) ⟨v, v.asNull, false⟩ h
  | typed {h : History} {v type : Value} : Realizes h (.typed v type) ⟨v, type, true⟩ h
  | supplier {h : History} {s : Supplier} {v : Value} :
      s.answer h = .ok v →
      Realizes h (.supplier s) ⟨v, v.asNull, false⟩ (.called s.id :: h)

/-- An argument that cannot be realized: its supplier fails. -/
inductive Refuses : History → Argument → Failure → History → Prop
  | supplier {h : History} {s : Supplier} {failure : Failure} :
      s.answer h = .error failure → Refuses h (.supplier s) failure (.called s.id :: h)

/-- What an argument may answer after the history `h`. -/
def Realization (h : History) (argument : Argument) (h' : History) :
    Except Failure Resolved → Prop
  | .ok r => Realizes h argument r h'
  | .error failure => Refuses h argument failure h'

theorem realization_run (argument : Argument) (h : History) :
    Realization h argument (argument.realize.run h).2 (argument.realize.run h).1 := by
  cases argument with
  | value v => exact .value
  | typed v type => exact .typed
  | supplier s =>
      have hrun : (Argument.supplier s).realize.run h =
          ((s.answer h).map Resolved.ofValue, .called s.id :: h) := by
        refine (run_bind_lift rfl).trans ((run_bind_lift rfl).trans ?_)
        cases s.answer h <;> rfl
      rw [hrun]
      cases hanswer : s.answer h with
      | ok v => exact .supplier hanswer
      | error failure => exact .supplier hanswer

/-- Realizing only adds to the history. -/
theorem Realizes.suffix {h h' : History} {argument : Argument} {r : Resolved}
    (hrealizes : Realizes h argument r h') : h <:+ h' := by
  cases hrealizes with
  | value => exact List.suffix_rfl
  | typed => exact List.suffix_rfl
  | supplier => exact List.suffix_cons _ _

/-- An argument realized at some moment between two histories. -/
def RealizedBetween (before after : History) (argument : Argument) (r : Resolved) : Prop :=
  ∃ h h', before <:+ h ∧ Realizes h argument r h' ∧ h' <:+ after

theorem RealizedBetween.mono {before before' after after' : History} {argument : Argument}
    {r : Resolved} (hrealized : RealizedBetween before after argument r)
    (hbefore : before' <:+ before) (hafter : after <:+ after') :
    RealizedBetween before' after' argument r := by
  obtain ⟨h, h', hstart, hrealizes, hstop⟩ := hrealized
  exact ⟨h, h', hbefore.trans hstart, hrealizes, hstop.trans hafter⟩

namespace Binding

/-! ## Realizing one after the other -/

/-- Arguments realized in order, each under its key, until one of them cannot be. -/
inductive RealizesAll {κ : Type} (described : κ → String) :
    History → List (κ × Argument) → Except Failure (List (κ × Resolved)) → History → Prop
  | nil {h : History} : RealizesAll described h [] (.ok []) h
  | refused {h h' : History} {key : κ} {argument : Argument} {rest : List (κ × Argument)}
      {failure : Failure} :
      Refuses h argument failure h' →
      RealizesAll described h ((key, argument) :: rest)
        (.error (.context ("Cannot compute the argument " ++ described key) failure)) h'
  | cons {h h₁ h' : History} {key : κ} {argument : Argument} {r : Resolved}
      {rest : List (κ × Argument)} {outcome : Except Failure (List (κ × Resolved))} :
      Realizes h argument r h₁ → RealizesAll described h₁ rest outcome h' →
      RealizesAll described h ((key, argument) :: rest) (outcome.map ((key, r) :: ·)) h'

theorem realizesAll_run {κ : Type} (described : κ → String) (sources : List (κ × Argument))
    (h : History) :
    RealizesAll described h sources ((realizeAll described sources).run h).1
      ((realizeAll described sources).run h).2 := by
  induction sources generalizing h with
  | nil => exact .nil
  | cons source rest ih =>
      obtain ⟨key, argument⟩ := source
      have hfirst := realization_run argument h
      -- The context is put on failures only, so the argument decides how this step ends.
      have hcontext : (inContext ("Cannot compute the argument " ++ described key)
          argument.realize).run h =
            (withContext ("Cannot compute the argument " ++ described key)
              (argument.realize.run h).1, (argument.realize.run h).2) := rfl
      rw [realizeAll]
      generalize argument.realize.run h = answer at hfirst hcontext
      obtain ⟨result, h₁⟩ := answer
      cases result with
      | error failure =>
          rw [run_bind_of_error hcontext]
          exact .refused hfirst
      | ok r =>
          rw [run_bind_of_ok hcontext, run_bind_pure]
          exact .cons hfirst (ih h₁)

section

variable {κ : Type} {described : κ → String} {h h' : History} {sources : List (κ × Argument)}
  {outcome : Except Failure (List (κ × Resolved))}

/-- Realizing in order only adds to the history. -/
theorem RealizesAll.suffix (hall : RealizesAll described h sources outcome h') : h <:+ h' := by
  induction hall with
  | nil => exact List.suffix_rfl
  | refused hrefuses =>
      cases hrefuses with
      | supplier => exact List.suffix_cons _ _
  | cons hrealizes _ ih => exact hrealizes.suffix.trans ih

/-- Only a supplier among the arguments fails, and its failure is shown with its key. -/
theorem RealizesAll.refusal (hall : RealizesAll described h sources outcome h') {failure : Failure}
    (houtcome : outcome = .error failure) :
    ∃ key s h₁ cause, (key, .supplier s) ∈ sources ∧ s.answer h₁ = .error cause ∧
      failure = .context ("Cannot compute the argument " ++ described key) cause := by
  induction hall with
  | nil => simp at houtcome
  | refused hrefuses =>
      obtain rfl := Except.error.inj houtcome
      cases hrefuses with
      | supplier hanswer => exact ⟨_, _, _, _, List.mem_cons_self, hanswer, rfl⟩
  | @cons h h₁ h' key argument r rest outcome _ _ ih =>
      cases outcome with
      | ok realized => simp [Except.map] at houtcome
      | error cause =>
          obtain ⟨key, s, h₁, cause, hmem, hanswer, hfailure⟩ := ih houtcome
          exact ⟨key, s, h₁, cause, List.mem_cons_of_mem _ hmem, hanswer, hfailure⟩

end

/-! ## Looking for sources -/

/-- The source for a name: its own argument, or else the answer of the first finder that has one. -/
def source? (b : Binding) (site : BindingSite) (name : String) : Option Argument :=
  match b.named.get? name with
  | some argument => some argument
  | none => b.finders.findSome? fun finder => finder.find? site name

/-- Whether a finder was asked, and no supplier called, in each of the events. -/
def OnlyAsked (events : List Event) : Prop :=
  ∀ e ∈ events, ∃ finder name, e = .asked finder name

/-- The number of finders that are asked for a name: those without an answer that stand in front,
and the first one with an answer if there is one. -/
def askedCount (site : BindingSite) (name : String) (finders : List Finder) : Nat :=
  min ((finders.takeWhile fun finder => (finder.find? site name).isNone).length + 1)
    finders.length

/-- The questions to finders about a name, in order. A name with an argument of its own raises
none. -/
def questionsAbout (b : Binding) (site : BindingSite) (name : String) : List Event :=
  match b.named.get? name with
  | some _ => []
  | none => (List.range (askedCount site name b.finders)).map fun index => .asked index name

/-- The questions about the names of parameters, each name raising its own only once. -/
def questions (b : Binding) (site : BindingSite) : Parameters → List Event
  | .positional _ => []
  | .named names => names.eraseDups.flatMap (b.questionsAbout site)

theorem onlyAsked_questions (b : Binding) (site : BindingSite) (parameters : Parameters) :
    OnlyAsked (b.questions site parameters).reverse := by
  intro e he
  rw [List.mem_reverse] at he
  cases parameters with
  | positional count => simp [questions] at he
  | named names =>
      obtain ⟨name, -, he⟩ := List.mem_flatMap.mp he
      unfold questionsAbout at he
      split at he
      · simp at he
      · obtain ⟨index, -, rfl⟩ := List.mem_map.mp he
        exact ⟨index, name, rfl⟩

theorem askedCount_cons (site : BindingSite) (name : String) (finder : Finder)
    (finders : List Finder) :
    askedCount site name (finder :: finders) =
      if (finder.find? site name).isSome then 1 else askedCount site name finders + 1 := by
  unfold askedCount
  cases hanswer : finder.find? site name with
  | some argument => simp [hanswer]
  | none => simp [hanswer, Nat.add_min_add_right]

theorem askFinders_run (site : BindingSite) (name : String) (finders : List Finder) (index : Nat)
    (h : History) :
    (askFinders site name index finders).run h =
      (finders.findSome? fun finder => finder.find? site name,
        ((List.range' index (askedCount site name finders)).map (.asked · name)).reverse ++ h) := by
  induction finders generalizing index h with
  | nil => rfl
  | cons finder finders ih =>
      have hrun : (askFinders site name index (finder :: finders)).run h =
          (match finder.find? site name with
          | some argument => pure (some argument)
          | none => askFinders site name (index + 1) finders : StateM History _).run
            (.asked index name :: h) := rfl
      rw [hrun, List.findSome?_cons, askedCount_cons]
      cases finder.find? site name with
      | some argument => rfl
      | none =>
          -- What the finders behind leave is later, so it stands in front.
          rw [Option.isSome_none, if_neg Bool.false_ne_true, List.range'_succ, List.map_cons,
            List.reverse_cons, List.append_assoc]
          exact ih (index + 1) (.asked index name :: h)

theorem lookUp_run (b : Binding) (site : BindingSite) (name : String) (h : History) :
    (b.lookUp site name).run h =
      (b.source? site name, (b.questionsAbout site name).reverse ++ h) := by
  unfold lookUp source? questionsAbout
  cases b.named.get? name with
  | some argument => rfl
  | none =>
      rw [List.range_eq_range']
      exact askFinders_run site name b.finders 0 h

/-- Looking for the sources of names gives the source of each, asks the finders about each, and
calls no supplier. -/
theorem lookUpAll_run (b : Binding) (site : BindingSite) (names : List String) (h : History) :
    (b.lookUpAll site names).run h =
      (names.map fun name => (name, b.source? site name),
        (names.flatMap (b.questionsAbout site)).reverse ++ h) := by
  induction names generalizing h with
  | nil => rfl
  | cons name names ih =>
      have hrun : (b.lookUpAll site (name :: names)).run h =
          (((name, ((b.lookUp site name).run h).1) ::
              ((b.lookUpAll site names).run ((b.lookUp site name).run h).2).1),
            ((b.lookUpAll site names).run ((b.lookUp site name).run h).2).2) := rfl
      rw [hrun, lookUp_run, ih, List.flatMap_cons, List.reverse_append, List.append_assoc]
      rfl

/-! ## All phases -/

/-- The first mismatch between a binding and parameters. -/
def mismatch? (b : Binding) (site : BindingSite) (parameters : Parameters) (allowUnused : Bool) :
    Option Mismatch :=
  match parameters with
  | .positional count => b.positionalMismatch allowUnused count
  | .named names =>
    b.namedMismatch allowUnused names
      (names.eraseDups.filter fun name => (b.source? site name).isNone)

/-- The sources of `count` positional parameters in order. -/
def positionalSources (b : Binding) (count : Nat) : List (Nat × Argument) :=
  b.positional.entries.filter fun (i, _) => i < count

/-- The sources of named parameters in the order of their first appearance. -/
def namedSources (b : Binding) (site : BindingSite) (names : List String) :
    List (String × Argument) :=
  names.eraseDups.filterMap fun name => (b.source? site name).map (name, ·)

/-- How a resolution after the history `h` can end. -/
inductive Resolves (b : Binding) (site : BindingSite) (allowUnused : Bool) (h : History) :
    Parameters → Except Failure (List Resolved) → History → Prop
  | mismatch {parameters : Parameters} {m : Mismatch} {asked : List Event} :
      b.mismatch? site parameters allowUnused = some m → OnlyAsked asked →
      Resolves b site allowUnused h parameters (.error (.mismatch m)) (asked ++ h)
  | positional {count : Nat} {outcome : Except Failure (List (Nat × Resolved))} {h' : History} :
      b.mismatch? site (.positional count) allowUnused = none →
      RealizesAll (fun i => "at position " ++ toString i) h (b.positionalSources count)
        outcome h' →
      Resolves b site allowUnused h (.positional count) (outcome.map (·.map Prod.snd)) h'
  | named {names : List String} {asked : List Event}
      {outcome : Except Failure (List (String × Resolved))} {h' : History} :
      b.mismatch? site (.named names) allowUnused = none → OnlyAsked asked →
      RealizesAll (fun name => "for parameter `" ++ name ++ "`") (asked ++ h)
        (b.namedSources site names) outcome h' →
      Resolves b site allowUnused h (.named names)
        (outcome.map fun realized => names.filterMap (realized.lookup ·)) h'

/-- Positions are not looked for anywhere, so a mismatch leaves the history as it was. -/
theorem resolvePositional_run (b : Binding) (site : BindingSite) (allowUnused : Bool)
    (count : Nat) (h : History) :
    (b.resolvePositional allowUnused count).run h =
      match b.mismatch? site (.positional count) allowUnused with
      | some m => (.error (.mismatch m), h)
      | none =>
        let realized :=
          (realizeAll (fun i => "at position " ++ toString i) (b.positionalSources count)).run h
        (realized.1.map (·.map Prod.snd), realized.2) := by
  have hclasses : b.mismatch? site (.positional count) allowUnused =
      b.positionalMismatch allowUnused count := rfl
  rw [hclasses, resolvePositional]
  cases b.positionalMismatch allowUnused count with
  | some m => rfl
  | none => exact run_bind_pure _ _ h

/-- Names are looked for before anything is compared. -/
theorem resolveNamed_run (b : Binding) (site : BindingSite) (allowUnused : Bool)
    (names : List String) (h : History) :
    (b.resolveNamed site allowUnused names).run h =
      let h' := (b.questions site (.named names)).reverse ++ h
      match b.mismatch? site (.named names) allowUnused with
      | some m => (.error (.mismatch m), h')
      | none =>
        let realized := (realizeAll (fun name => "for parameter `" ++ name ++ "`")
          (b.namedSources site names)).run h'
        (realized.1.map fun realized => names.filterMap (realized.lookup ·), realized.2) := by
  have hclasses : b.namedMismatch allowUnused names
      (missingNames (names.eraseDups.map fun name => (name, b.source? site name))) =
        b.mismatch? site (.named names) allowUnused := by
    rw [missingNames_map]
    rfl
  have hfound : foundSources (names.eraseDups.map fun name => (name, b.source? site name)) =
      b.namedSources site names := foundSources_map _ _
  refine (run_bind_lift (b.lookUpAll_run site names.eraseDups h)).trans ?_
  rw [hclasses, hfound, questions]
  cases b.mismatch? site (.named names) allowUnused with
  | some m => rfl
  | none => exact run_bind_pure _ _ _

theorem resolves_positional (b : Binding) (site : BindingSite) (allowUnused : Bool) (count : Nat)
    (h : History) :
    Resolves b site allowUnused h (.positional count)
      ((b.resolvePositional allowUnused count).run h).1
      ((b.resolvePositional allowUnused count).run h).2 := by
  rw [b.resolvePositional_run site]
  cases hmismatch : b.mismatch? site (.positional count) allowUnused with
  | some m => exact .mismatch hmismatch (b.onlyAsked_questions site (.positional count))
  | none => exact .positional hmismatch (realizesAll_run _ _ _)

theorem resolves_named (b : Binding) (site : BindingSite) (allowUnused : Bool)
    (names : List String) (h : History) :
    Resolves b site allowUnused h (.named names)
      ((b.resolveNamed site allowUnused names).run h).1
      ((b.resolveNamed site allowUnused names).run h).2 := by
  have hasked := b.onlyAsked_questions site (.named names)
  rw [resolveNamed_run]
  cases hmismatch : b.mismatch? site (.named names) allowUnused with
  | some m => exact .mismatch hmismatch hasked
  | none => exact .named hmismatch hasked (realizesAll_run _ _ _)

/-- A resolution ends in one of these ways. -/
theorem resolves_run (b : Binding) (parameters : Parameters) (site : BindingSite)
    (allowUnused : Bool) (h : History) :
    Resolves b site allowUnused h parameters
      ((b.resolve parameters site allowUnused).run h).1
      ((b.resolve parameters site allowUnused).run h).2 := by
  cases parameters with
  | positional count => exact b.resolves_positional site allowUnused count h
  | named names => exact b.resolves_named site allowUnused names h

end Binding

/-! ## On a session -/

theorem onHistory_run {α : Type} (action : Recording α) (session : Session) :
    (onHistory action).run session =
      ((action.run session.history).1,
        { session with history := (action.run session.history).2 }) := by
  refine (run_bind_lift rfl).trans ?_
  generalize action.run session.history = answer
  obtain ⟨result, history⟩ := answer
  refine (run_bind_lift rfl).trans ?_
  cases result <;> rfl

theorem tryCatch_run {α : Type} (action : Effect α) (handler : Failure → Effect α)
    (session : Session) :
    (tryCatch action handler).run session =
      match action.run session with
      | (.ok a, after) => (.ok a, after)
      | (.error failure, after) => (handler failure).run after := by
  obtain ⟨result, after, hrun⟩ : ∃ result after, action.run session = (result, after) :=
    ⟨_, _, rfl⟩
  rw [ExceptT.run_tryCatch, hrun]
  refine (StateT.run_bind _ _ session).trans ?_
  rw [show StateT.run action.run session = (result, after) from hrun]
  cases result <;> rfl

namespace Binding

/-- The session only gets the new history and, of a failure, a record. -/
theorem resolveParameters_run (b : Binding) (parameters : Parameters) (site : BindingSite)
    (allowUnused : Bool) (session : Session) :
    (b.resolveParameters parameters site allowUnused).run session =
      match (b.resolve parameters site allowUnused).run session.history with
      | (.ok args, history) => (.ok args, { session with history })
      | (.error failure, history) =>
        (.error (b.resolutionFailure site failure), { session with history }.addRecords
          [⟨.error, (b.resolutionFailure site failure).message⟩]) := by
  rw [resolveParameters, tryCatch_run, onHistory_run]
  cases (b.resolve parameters site allowUnused).run session.history with
  | mk result history => cases result <;> rfl

end Binding

end SqlTemplate
