import SqlTemplate.Proofs.ResolutionRun
import SqlTemplate.Statement

/-!
# Calls that change a draft in place

A call makes a new draft of an old one, or fails. In place it is a sequence of changes that are seen
at once: the arguments of a list are bound one by one, and one that takes the place of another is
recorded when it does. Both come to the same, since a call fails before its first change or not at
all. So what a failed call leaves behind is the draft as it was, and the record of the failure.
-/

namespace SqlTemplate

namespace Draft

/-- A computation that changes a draft in place and writes to a log, and that may fail on the
way. -/
abbrev Filling := ExceptT Failure (StateM (Draft × List LogRecord))

/-! ## The steps of a call -/

/-- Changes the draft, after records of how it was. -/
def change (records : Draft → List LogRecord) (next : Draft → Draft) : Filling Unit :=
  modify fun (draft, log) => (next draft, log ++ records draft)

/-- Ends with a failure if there is one, which is written to the log first. -/
def refuseOn : Option Failure → Filling Unit
  | none => pure ()
  | some failure => do
    change (fun _ => [⟨.error, failure.message⟩]) id
    throw failure

/-- Binds arguments to names one by one. -/
def bindNameds : List (String × Argument) → Filling Unit
  | [] => pure ()
  | (name, argument) :: rest => do
    change (·.binding.namedRecords name) (·.withBinding (·.addNamed name argument))
    bindNameds rest

/-- Carries out a call in place. -/
def perform (s : Style) : BindCall → Filling Unit
  | .positional position value =>
    change (·.binding.positionalRecords position)
      (·.withBinding (·.addPositional position (.value value)))
  | .named name argument =>
    change (·.binding.namedRecords name) (·.withBinding (·.addNamed name argument))
  | .finder finder => change (fun _ => []) (·.withBinding (·.addFinder finder))
  | .list key values => do
    refuseOn (listFault key values)
    bindNameds (listArguments key values)
    change (fun _ => []) (·.define key (listMarkers s key values.length))
  | .define key value => change (fun _ => []) (·.define key value)
  | .defineList key values => do
    refuseOn (defineListFault key values)
    change (fun _ => []) (·.define key (Text.joined ", " values))

/-! ## What a call does -/

section

variable (d : Draft) (log : List LogRecord)

theorem run_change (records : Draft → List LogRecord) (next : Draft → Draft) :
    (change records next).run (d, log) = (.ok (), next d, log ++ records d) := rfl

/-- What is refused ends there, and the draft is as it was. -/
theorem run_refuseOn_bind (fault : Option Failure) (next : Filling Unit) :
    (refuseOn fault >>= fun _ => next).run (d, log) =
      match fault with
      | some failure => (.error failure, d, log ++ faultRecords (some failure))
      | none => next.run (d, log) := by
  cases fault <;> rfl

/-- Arguments that are bound one by one are bound together. -/
theorem run_bindNameds (entries : List (String × Argument)) :
    (bindNameds entries).run (d, log) =
      (.ok (), d.withBinding (·.addNameds entries), log ++ d.binding.namedsRecords entries) := by
  induction entries generalizing d log with
  | nil =>
      rw [Binding.namedsRecords, List.append_nil]
      rfl
  | cons entry rest ih =>
      obtain ⟨name, argument⟩ := entry
      refine (run_bind_of_ok (run_change d log _ _)).trans ((ih _ _).trans ?_)
      rw [Binding.namedsRecords, ← List.append_assoc]
      rfl

/-- In place a call comes to the draft that it makes, or it fails and the draft stays. It writes the
same records. -/
theorem run_perform (s : Style) (call : BindCall) :
    (perform s call).run (d, log) =
      match d.apply s call with
      | .ok d' => (.ok (), d', log ++ d.records call)
      | .error failure => (.error failure, d, log ++ d.records call) := by
  cases call with
  | positional position value => rfl
  | named name argument => rfl
  | finder finder => rfl
  | define key value => rfl
  | list key values =>
      rw [perform, run_refuseOn_bind, apply, records]
      cases listFault key values with
      | some failure => rfl
      | none =>
          refine (run_bind_of_ok (run_bindNameds d log _)).trans ((run_change _ _ _ _).trans ?_)
          rw [List.append_nil]
  | defineList key values =>
      rw [perform, run_refuseOn_bind, apply, records]
      cases defineListFault key values with
      | some failure => rfl
      | none => rfl

end

end Draft

end SqlTemplate
