import SqlTemplate.Query
import SqlTemplate.Registry
import SqlTemplate.Table
import SqlTemplate.Text.Shortened

/-!
# Prepared statements

A handle stands for the prepared statement of a database driver: slots that are filled by number and
emptied together. Slots that are not written keep their values. A handle may refuse to fill one slot
or to be emptied.
-/

namespace SqlTemplate

open Text (shortened)

/-- What a handle was told to do. -/
inductive HandleCall where
  | bind (slot : Nat)
  | clear
  deriving DecidableEq, Repr

/-- A prepared statement with its slots. -/
structure Handle where
  slots : Table Nat Value
  /-- What was done so far, in order. -/
  calls : List HandleCall
  /-- A slot that cannot be filled. -/
  refusedSlot : Option Nat
  /-- Whether the slots cannot be emptied. -/
  refusesClear : Bool

namespace Handle

/-- A handle without values that refuses nothing. -/
def empty : Handle := ⟨∅, [], none, false⟩

/-- The handle with a value in a slot. -/
def bind (h : Handle) (slot : Nat) (value : Value) : Except Failure Handle :=
  if h.refusedSlot = some slot then .error (.reported ("slot " ++ toString slot ++ " refused"))
  else .ok { h with slots := h.slots.insert slot value, calls := h.calls ++ [.bind slot] }

/-- The handle with all slots empty. -/
def clear (h : Handle) : Except Failure Handle :=
  if h.refusesClear then .error (.reported "clear refused")
  else .ok { h with slots := ∅, calls := h.calls ++ [.clear] }

end Handle

/-- What handing arguments to a handle did. The handle is as it is left, also after a failure. -/
structure Delivery where
  handle : Handle
  failure : Option Failure
  records : List LogRecord

namespace Handle

/-- The failure of an argument that could not be prepared. -/
def slotFailure (sql : String) (slot : Nat) (failure : Failure) : Failure :=
  .context
    ("Cannot bind the argument at position " ++ toString slot ++ " of query:\n" ++ shortened sql)
    failure

/-- Prepares arguments and writes them to the slots from `slot` on; the first failure ends it. -/
def fill (r : Registry) (sql : String) (slot : Nat) (h : Handle) : List Resolved → Delivery
  | [] => ⟨h, none, []⟩
  | argument :: rest =>
    match r.prepare argument with
    | .error failure =>
      let failure := slotFailure sql slot failure
      ⟨h, some failure, [⟨.error, failure.message⟩]⟩
    | .ok value =>
      match h.bind slot value with
      | .error failure => ⟨h, some failure, []⟩
      | .ok h' => fill r sql (slot + 1) h' rest

/-- Replaces what the slots hold by one row of several. -/
def fillRow (r : Registry) (sql : String) (rows : List (List Resolved)) (row : Nat) (h : Handle) :
    Delivery :=
  match rows[row]? with
  | none => ⟨h, some (.rowOutOfRange row rows.length), []⟩
  | some arguments =>
    match h.clear with
    | .error failure => ⟨h, some failure, []⟩
    | .ok h' =>
      let delivery := fill r sql 0 h' arguments
      let context := "While binding row " ++ toString row ++ " of the batch"
      { delivery with failure := delivery.failure.map (.context context) }

end Handle

end SqlTemplate
