import Mathlib.Data.List.Induction
import SqlTemplate.Batch
import SqlTemplate.Proofs.BindingEdits
import SqlTemplate.Proofs.ListParameters

/-!
# The rows of a batch

A batch is filled by calls that bind arguments to its current row and closed row by row. The rows
are said here from the calls alone: the sequence of calls is cut after each call that closes a row
in which something was bound, and each piece between two cuts is a row, which holds what the calls
of the piece bind. A call that closes a row binds its own values first and looks then whether the
row is empty, so it can leave the batch otherwise than it was only if it does not fail.
-/

namespace SqlTemplate

/-- A call on a batch: it fills in the current row, or it closes it. -/
inductive BatchCall where
  | fill (call : BindCall)
  | close (call : Batch.RowCall)

/-! ## What calls bind -/

namespace BatchCall

/-- The arguments that a call binds by position. The values of a row go to the positions from zero
on. -/
def positionals : BatchCall → List (Nat × Argument)
  | fill (.positional position value) => [(position, .value value)]
  | close (.positional values) =>
    values.zipIdx.map fun (value, position) => (position, .value value)
  | _ => []

/-- The arguments that a call binds by name. The values of a list go to the names that are made from
its key; a list with a key that forms no names binds none. -/
def nameds : BatchCall → List (String × Argument)
  | fill (.named name argument) => [(name, argument)]
  | fill (.list key values) =>
    if Draft.FormsNames key then
      values.zipIdx.map fun (value, index) =>
        ("__" ++ key ++ "_" ++ toString index, .value value)
    else []
  | close (.named entries) => entries.map fun (name, value) => (name, .value value)
  | _ => []

/-- The finders that a call registers. -/
def finders : BatchCall → List Finder
  | fill (.finder finder) => [finder]
  | _ => []

/-- Whether a call leaves the current row as it is. -/
def bindsNothing (call : BatchCall) : Bool :=
  call.positionals.isEmpty && call.nameds.isEmpty && call.finders.isEmpty

/-- Whether a call closes the current row. -/
def closes : BatchCall → Bool
  | fill _ => false
  | close _ => true

/-- What a call adds to the row that it closes by position is what it binds so. -/
theorem positionals_close (call : Batch.RowCall) : (close call).positionals = call.positionals := by
  cases call with
  | add => rfl
  | positional values =>
      rw [Batch.RowCall.positionals, List.mapIdx_eq_zipIdx_map]
      rfl
  | named entries => rfl

/-- What a call adds to the row that it closes by name is what it binds so. -/
theorem nameds_close (call : Batch.RowCall) : (close call).nameds = call.nameds := by
  cases call <;> rfl

/-- The parameters of a list are what the call binds by name. -/
theorem nameds_list {key : String} (hkey : Draft.FormsNames key) (values : List Value) :
    (fill (.list key values)).nameds = Draft.listArguments key values := by
  rw [nameds, if_pos hkey, Draft.listArguments, List.mapIdx_eq_zipIdx_map]
  rfl

theorem nameds_list_of_not {key : String} (hkey : ¬ Draft.FormsNames key) (values : List Value) :
    (fill (.list key values)).nameds = [] :=
  if_neg hkey

end BatchCall

namespace Binding

/-- The binding holds what calls bind: the last argument for each position and for each name, and
the finders in the order of the calls. -/
structure Holds (b : Binding) (calls : List BatchCall) : Prop where
  positional : ∀ position, b.positional.get? position =
    (calls.flatMap BatchCall.positionals).reverse.lookup position
  named : ∀ name, b.named.get? name = (calls.flatMap BatchCall.nameds).reverse.lookup name
  finders : b.finders = calls.flatMap BatchCall.finders

/-- The binding with what a call binds. -/
def withCall (b : Binding) (call : BatchCall) : Binding :=
  let row := (b.addPositionals call.positionals).addNameds call.nameds
  { row with finders := row.finders ++ call.finders }

/-- What calls bind one after the other. -/
def ofCalls (calls : List BatchCall) : Binding :=
  calls.foldl withCall .empty

theorem ofCalls_append_singleton (calls : List BatchCall) (call : BatchCall) :
    ofCalls (calls ++ [call]) = (ofCalls calls).withCall call :=
  List.foldl_concat ..

theorem Holds.withCall {b : Binding} {calls : List BatchCall} (hb : b.Holds calls)
    (call : BatchCall) : (b.withCall call).Holds (calls ++ [call]) where
  positional position := by
    rw [List.flatMap_append, List.reverse_append, List.lookup_append, ← hb.positional]
    simp [Binding.withCall, get?_addPositionals]
  named name := by
    rw [List.flatMap_append, List.reverse_append, List.lookup_append, ← hb.named]
    simp [Binding.withCall, get?_addNameds]
  finders := by
    simp [Binding.withCall, hb.finders]

theorem holds_ofCalls (calls : List BatchCall) : (ofCalls calls).Holds calls := by
  induction calls using List.reverseRecOn with
  | nil => exact ⟨fun _ => rfl, fun _ => rfl, rfl⟩
  | append_singleton calls call ih =>
      rw [ofCalls_append_singleton]
      exact ih.withCall call

/-- A binding is empty if it holds what no calls bind. -/
theorem isEmpty_iff_holds_nil {b : Binding} : b.isEmpty = true ↔ b.Holds [] := by
  rw [isEmpty, Bool.and_eq_true, Bool.and_eq_true, Table.isEmpty_iff, Table.isEmpty_iff,
    List.isEmpty_iff]
  constructor
  · rintro ⟨⟨hpositional, hnamed⟩, hfinders⟩
    exact ⟨hpositional, hnamed, hfinders⟩
  · rintro ⟨hpositional, hnamed, hfinders⟩
    exact ⟨⟨hpositional, hnamed⟩, hfinders⟩

theorem isEmpty_withCall (b : Binding) (call : BatchCall) :
    (b.withCall call).isEmpty = (b.isEmpty && call.bindsNothing) := by
  have hfinders : (b.finders ++ call.finders).isEmpty =
      (b.finders.isEmpty && call.finders.isEmpty) := by
    cases b.finders <;> rfl
  simp only [withCall, isEmpty, BatchCall.bindsNothing, positional_addNameds, named_addNameds,
    positional_addPositionals, named_addPositionals, finders_addNameds, finders_addPositionals,
    Table.isEmpty_foldl_insert, hfinders]
  ac_rfl

theorem isEmpty_ofCalls (calls : List BatchCall) :
    (ofCalls calls).isEmpty = calls.all BatchCall.bindsNothing := by
  induction calls using List.reverseRecOn with
  | nil => rfl
  | append_singleton calls call ih =>
      rw [ofCalls_append_singleton, isEmpty_withCall, ih, List.all_append, List.all_cons,
        List.all_nil, Bool.and_true]

/-- A call that binds nothing changes nothing. -/
theorem withCall_of_bindsNothing (b : Binding) {call : BatchCall}
    (hcall : call.bindsNothing = true) : b.withCall call = b := by
  simp only [BatchCall.bindsNothing, Bool.and_eq_true, List.isEmpty_iff] at hcall
  obtain ⟨⟨hpositionals, hnameds⟩, hfinders⟩ := hcall
  rw [withCall, hpositionals, hnameds, hfinders, addPositionals, addNameds]
  exact congrArg (Binding.mk b.positional b.named) (List.append_nil b.finders)

end Binding

/-- The binding of a draft after a call has what the call binds; a call that fails binds nothing. -/
theorem Draft.binding_apply (d : Draft) (s : Style) (call : BindCall) :
    match d.apply s call with
    | .ok d' => d'.binding = d.binding.withCall (.fill call)
    | .error _ => (BatchCall.fill call).bindsNothing = true := by
  -- Every binding below differs from the other side by an empty list of finders at most.
  have hfinders : ∀ b : Binding, b = { b with finders := b.finders ++ [] } := fun b =>
    congrArg (Binding.mk b.positional b.named) (List.append_nil b.finders).symm
  cases call with
  | positional position value => exact hfinders _
  | named name argument => exact hfinders _
  | finder finder => rfl
  | define key value => exact hfinders _
  | defineList key values =>
      cases values with
      | nil => rfl
      | cons value values => exact hfinders _
  | list key values =>
      rw [apply, listFault, Binding.withCall, BatchCall.bindsNothing]
      by_cases hkey : FormsNames key
      · rw [if_pos (isListKey_iff_formsNames.mpr hkey), BatchCall.nameds_list hkey]
        cases values with
        | nil => rfl
        | cons value values => exact hfinders _
      · rw [if_neg (mt isListKey_iff_formsNames.mp hkey), BatchCall.nameds_list_of_not hkey]
        rfl

/-! ## Cutting a sequence of calls into rows -/

/-- Calls on a batch, cut after those that add a row. -/
structure Segments where
  /-- The calls of each row. -/
  rows : List (List BatchCall)
  /-- The calls since the last row was added. -/
  pending : List BatchCall

namespace Segments

/-- The segments with one more call, which ends a row if it is one that closes rows and if something
was bound. -/
def next (s : Segments) (call : BatchCall) : Segments :=
  let calls := s.pending ++ [call]
  if call.closes && !calls.all BatchCall.bindsNothing then ⟨s.rows ++ [calls], []⟩
  else ⟨s.rows, calls⟩

/-- The segments of a sequence of calls. -/
def ofCalls (calls : List BatchCall) : Segments :=
  calls.foldl next ⟨[], []⟩

theorem ofCalls_append_singleton (calls : List BatchCall) (call : BatchCall) :
    ofCalls (calls ++ [call]) = (ofCalls calls).next call :=
  List.foldl_concat ..

/-- A call that is refused because nothing is bound yet belongs to the row that is added later. -/
example : (ofCalls [.close (.positional [.null]), .close .add, .fill (.named "a" (.value .null)),
    .close .add]).rows.map List.length = [1, 3] := rfl

/-- In the calls of every row something was bound. -/
theorem binds_of_mem_rows {calls row : List BatchCall} (hrow : row ∈ (ofCalls calls).rows) :
    row.all BatchCall.bindsNothing = false := by
  induction calls using List.reverseRecOn with
  | nil => cases hrow
  | append_singleton calls call ih =>
      rw [ofCalls_append_singleton, next] at hrow
      split at hrow
      · rename_i hbinds
        rw [Bool.and_eq_true, Bool.not_eq_true'] at hbinds
        rcases List.mem_append.mp hrow with hrow | hrow
        · exact ih hrow
        · obtain rfl := List.mem_singleton.mp hrow
          exact hbinds.2
      · exact ih hrow

end Segments

namespace Batch

/-! ## One call -/

/-- The batch after a call, and the failure of the call. What a call that closes a row has bound to
the row stays bound also when the row is refused. -/
def after (b : Batch) : BatchCall → Batch × Option Failure
  | .fill call =>
    match b.apply call with
    | .ok b' => (b', none)
    | .error failure => (b, some failure)
  | .close call =>
    match b.close call with
    | .ok b' => (b', none)
    | .error failure =>
      ({ b with draft := b.draft.withBinding fun _ => b.rowWith call }, some failure)

/-- The batch after a sequence of calls, whether they fail or not. -/
def run (b : Batch) (calls : List BatchCall) : Batch :=
  calls.foldl (fun b call => (b.after call).1) b

theorem run_append_singleton (b : Batch) (calls : List BatchCall) (call : BatchCall) :
    b.run (calls ++ [call]) = ((b.run calls).after call).1 :=
  List.foldl_concat ..

section

variable (b : Batch)

/-- A call that fills in the current row adds no row, and the current row has then what the call
binds; a call that fails binds nothing. -/
theorem after_fill (call : BindCall) :
    (b.after (.fill call)).1.rows = b.rows ∧
      (b.after (.fill call)).1.draft.binding = b.draft.binding.withCall (.fill call) := by
  have hdraft := b.draft.binding_apply b.config.style call
  rw [after, apply]
  cases happly : b.draft.apply b.config.style call with
  | ok d =>
      rw [happly] at hdraft
      exact ⟨rfl, hdraft⟩
  | error failure =>
      rw [happly] at hdraft
      exact ⟨rfl, (Binding.withCall_of_bindsNothing _ hdraft).symm⟩

theorem rowWith_eq (call : RowCall) : b.rowWith call = b.draft.binding.withCall (.close call) := by
  rw [rowWith, Binding.withCall, BatchCall.positionals_close, BatchCall.nameds_close]
  exact congrArg (Binding.mk _ _) (List.append_nil _).symm

/-- A call that closes a row appends it and begins the next, or it changes nothing. -/
theorem after_close (call : RowCall) :
    b.after (.close call) =
      if b.draft.binding.isEmpty && (BatchCall.close call).bindsNothing then
        (b, some (.emptyRow (Text.shortened b.template)))
      else
        ({ b with draft := ⟨.empty, b.draft.attributes⟩,
                  rows := b.rows ++ [b.draft.binding.withCall (.close call)] }, none) := by
  rw [← Binding.isEmpty_withCall, ← rowWith_eq, after, close]
  cases hempty : (b.rowWith call).isEmpty with
  | true =>
      rw [if_pos rfl, if_pos rfl]
      rw [rowWith_eq, Binding.isEmpty_withCall, Bool.and_eq_true] at hempty
      rw [rowWith_eq, Binding.withCall_of_bindsNothing _ hempty.2]
      rfl
  | false => rfl

end

/-! ## A sequence of calls -/

/-- The rows of the batch are those of the segments, and its current row is what the pending calls
bind. -/
structure Follows (b : Batch) (s : Segments) : Prop where
  rows : b.rows = s.rows.map Binding.ofCalls
  current : b.draft.binding = Binding.ofCalls s.pending

/-- One call keeps a batch and the segments of the calls in step. -/
theorem Follows.after {b : Batch} {s : Segments} (hb : b.Follows s) (call : BatchCall) :
    (b.after call).1.Follows (s.next call) := by
  rw [Segments.next]
  cases call with
  | fill call =>
      obtain ⟨hrows, hcurrent⟩ := b.after_fill call
      rw [hb.rows] at hrows
      rw [hb.current, ← Binding.ofCalls_append_singleton] at hcurrent
      exact ⟨hrows, hcurrent⟩
  | close call =>
      have hclose := b.after_close call
      rw [hb.current, ← Binding.isEmpty_withCall, ← Binding.ofCalls_append_singleton,
        Binding.isEmpty_ofCalls] at hclose
      cases hempty : (s.pending ++ [BatchCall.close call]).all BatchCall.bindsNothing with
      | true =>
          -- The pending calls bind nothing, and neither does the one that is refused.
          rw [hempty, if_pos rfl] at hclose
          rw [hclose]
          refine ⟨hb.rows, hb.current.trans ?_⟩
          have hcall := List.all_eq_true.mp hempty (.close call) (by simp)
          rw [← Binding.withCall_of_bindsNothing (Binding.ofCalls s.pending) hcall,
            ← Binding.ofCalls_append_singleton]
          rfl
      | false =>
          rw [hempty, if_neg Bool.false_ne_true, hb.rows] at hclose
          rw [hclose]
          constructor
          · simp [BatchCall.closes]
          · rfl

/-- A new batch follows the segments of the calls that it is given. -/
theorem follows_run (config : Config) (template : String) (calls : List BatchCall) :
    ((create config template).run calls).Follows (Segments.ofCalls calls) := by
  induction calls using List.reverseRecOn with
  | nil => exact ⟨rfl, rfl⟩
  | append_singleton calls call ih =>
      rw [run_append_singleton, Segments.ofCalls_append_singleton]
      exact ih.after call

/-- Stored rows stay where they are and as they are. -/
theorem rows_prefix_run (b : Batch) (calls : List BatchCall) : b.rows <+: (b.run calls).rows := by
  induction calls using List.reverseRecOn with
  | nil => exact List.prefix_rfl
  | append_singleton calls call ih =>
      rw [run_append_singleton]
      refine ih.trans ?_
      cases call with
      | fill call =>
          obtain ⟨hrows, -⟩ := (b.run calls).after_fill call
          exact hrows.symm ▸ List.prefix_rfl
      | close call =>
          rw [after_close]
          split
          · exact List.prefix_rfl
          · exact List.prefix_append _ _

end Batch

/-- A batch never loses, repeats or changes a row. After any calls its rows are one by one those
that the calls make up: each holds what was bound since the row before it was added, and none of
them is empty. Rows that are there stay in every further run. A call that fills in the current row
adds no row. One that closes it adds just this row, with its own values, and begins the next, unless
nothing is bound: then it fails and nothing is other than before. -/
theorem batch_keeps_rows (config : Config) (template : String) (calls : List BatchCall) :
    let b := (Batch.create config template).run calls
    let since := (Segments.ofCalls calls).pending
    List.Forall₂ Binding.Holds b.rows (Segments.ofCalls calls).rows ∧
    b.draft.binding.Holds since ∧
    (∀ row ∈ b.rows, ¬ row.Holds []) ∧
    (∀ later, b.rows <+: (b.run later).rows) ∧
    (∀ call, (b.after (.fill call)).1.rows = b.rows) ∧
    ∀ call, ∃ row : Binding, row.Holds (since ++ [.close call]) ∧
      b.after (.close call) =
        if (since ++ [BatchCall.close call]).all BatchCall.bindsNothing then
          (b, some (.emptyRow (Text.shortened b.template)))
        else ({ b with draft := ⟨.empty, b.draft.attributes⟩, rows := b.rows ++ [row] }, none) := by
  intro b since
  obtain ⟨hrows, hcurrent⟩ := Batch.follows_run config template calls
  have hholds : b.draft.binding.Holds since := hcurrent ▸ Binding.holds_ofCalls since
  refine ⟨?_, hholds, ?_, b.rows_prefix_run, fun call => (b.after_fill call).1, fun call => ?_⟩
  · rw [hrows, List.forall₂_map_left_iff, List.forall₂_same]
    exact fun row _ => Binding.holds_ofCalls row
  · rw [hrows]
    intro row hrow
    obtain ⟨segment, hsegment, rfl⟩ := List.mem_map.mp hrow
    rw [← Binding.isEmpty_iff_holds_nil, Binding.isEmpty_ofCalls,
      Segments.binds_of_mem_rows hsegment]
    exact Bool.false_ne_true
  · refine ⟨b.draft.binding.withCall (.close call), hholds.withCall _, ?_⟩
    have hempty : b.draft.binding.isEmpty = since.all BatchCall.bindsNothing :=
      hcurrent ▸ Binding.isEmpty_ofCalls since
    rw [b.after_close, hempty, List.all_append, List.all_cons, List.all_nil, Bool.and_true]

end SqlTemplate
