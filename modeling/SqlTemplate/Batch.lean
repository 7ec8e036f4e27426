import SqlTemplate.Statement

/-!
# Batches

A batch is one template with many rows of arguments. Calls fill in the current row; adding it closes
it and begins the next. The attributes belong to all rows, so the template is rendered and parsed
once, and then every row is resolved on its own, in order, until one fails.
-/

namespace SqlTemplate

open Text (shortened)

/-- A template that is being bound row by row. -/
structure Batch where
  template : String
  config : Config
  /-- The current row, and the attributes of all rows. -/
  draft : Draft
  rows : List Binding

/-- A query with the arguments of each row. -/
structure RenderedBatch where
  entry : Entry
  rows : List (List Resolved)

namespace Batch

/-- A batch without rows, with the attributes of its configuration. -/
def create (config : Config) (template : String) : Batch :=
  ⟨template, config, ⟨.empty, config.attributes⟩, []⟩

/-- A call that closes the current row, after binding further values to it. -/
inductive RowCall where
  | add
  | positional (values : List Value)
  | named (entries : List (String × Value))

/-- The batch after a call that fills in its current row. -/
def apply (b : Batch) (call : BindCall) : Except Failure Batch :=
  (b.draft.apply b.config.style call).map fun draft => { b with draft }

/-- The arguments by position that a call adds to the current row. -/
def RowCall.positionals : RowCall → List (Nat × Argument)
  | positional values => values.mapIdx fun position value => (position, .value value)
  | _ => []

/-- The arguments by name that a call adds to the current row. -/
def RowCall.nameds : RowCall → List (String × Argument)
  | named entries => entries.map fun (name, value) => (name, .value value)
  | _ => []

/-- The current row with what a call adds to it. -/
def rowWith (b : Batch) (call : RowCall) : Binding :=
  (b.draft.binding.addPositionals call.positionals).addNameds call.nameds

/-- The batch with its current row closed; a row without bindings is refused. -/
def close (b : Batch) (call : RowCall) : Except Failure Batch :=
  let row := b.rowWith call
  if row.isEmpty then .error (.emptyRow (shortened b.template))
  else .ok { b with draft := { b.draft with binding := .empty }, rows := b.rows ++ [row] }

/-- The records of a call that closes the current row. -/
def closeRecords (b : Batch) (call : RowCall) : List LogRecord :=
  b.draft.binding.positionalsRecords call.positionals ++
    (b.draft.binding.addPositionals call.positionals).namedsRecords call.nameds ++
    match b.close call with
    | .ok _ => []
    | .error failure => [⟨.error, failure.message⟩]

/-- The arguments of rows, the first of which is the one with the number `index`; the first failure
ends it and names its row. -/
def resolveRows (site : BindingSite) (allowUnused : Bool) (index : Nat) :
    List Binding → Effect (List (List Resolved))
  | [] => pure []
  | row :: rest => do
    let arguments ← tryCatch (row.resolveFor site allowUnused) fun failure =>
      throw (.context ("Cannot resolve row " ++ toString index ++ " of the batch") failure)
    let others ← resolveRows site allowUnused (index + 1) rest
    pure (arguments :: others)

/-- The query and the arguments of each row. A current row that was begun but not added is left out,
with a warning. -/
def render (b : Batch) : Effect RenderedBatch := do
  let template ← b.config.renderTemplate b.draft.attributes b.template
  let entry ← b.config.parse template
  if !b.draft.binding.isEmpty then
    report [⟨.warn, "Batch rendered with a row not added yet, it is ignored:\n" ++
      shortened template⟩]
  let site : BindingSite := ⟨template, entry.query, b.draft.attributes⟩
  let rows ← resolveRows site b.config.allowUnused 0 b.rows
  pure ⟨entry, rows⟩

end Batch

namespace RenderedBatch

/-- Hands the arguments of a row to a handle, in place of what it holds. -/
def bindRowTo (r : RenderedBatch) (row : Nat) (registry : Registry) (h : Handle) : Delivery :=
  h.fillRow registry r.entry.query.sql r.rows row

end RenderedBatch

end SqlTemplate
