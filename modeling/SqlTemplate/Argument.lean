import SqlTemplate.Failure

/-!
# Arguments

What is bound to a parameter: a value, a value with the type it is to have, or a supplier that is
asked for the value when the statement is resolved. Suppliers may have effects and may answer
differently each time, so what was done before is kept as a history, and a supplier's answer is a
function of it.
-/

namespace SqlTemplate

/-- What happened while arguments were resolved. -/
inductive Event where
  /-- The finder registered at this index was asked for a name. -/
  | asked (finder : Nat) (name : String)
  /-- The supplier with this identity was called. -/
  | called (supplier : Nat)
  deriving DecidableEq, Repr

/-- What happened so far, the latest event first. -/
abbrev History := List Event

/-- A value that is computed when it is needed. -/
structure Supplier where
  id : Nat
  /-- The answer of a call after the given history. -/
  answer : History → Except Failure Value

namespace Supplier

/-- Always the same value. -/
def constant (id : Nat) (value : Value) : Supplier :=
  ⟨id, fun _ => .ok value⟩

/-- Always the same failure. -/
def failing (id : Nat) (message : String) : Supplier :=
  ⟨id, fun _ => .error (.reported message)⟩

/-- The numbers from `start` on, one for each call, as eight byte integers that run over. -/
def counter (id : Nat) (start : Int) : Supplier :=
  ⟨id, fun history =>
    .ok (.integer .int64 (some (Integer.wrapping .int64 (start + history.count (.called id)))))⟩

end Supplier

/-- What is bound to a parameter. -/
inductive Argument where
  /-- A value whose type is that of its variant. -/
  | value (value : Value)
  /-- A value with a type. -/
  | typed (value type : Value)
  | supplier (supplier : Supplier)

namespace Argument

/-- A value with the type that a descriptor describes. -/
def ofType (value type : Value) : Argument :=
  typed value type.asNull

/-- The null of a type. -/
def null (type : Value) : Argument :=
  typed type.asNull type.asNull

/-- The argument as descriptions show it. -/
def text : Argument → String
  | value v => v.text
  | typed v type => v.text ++ "::" ++ type.typeName
  | supplier _ => "<supplier>"

/-- The argument with the variants of its values. -/
def diagnostic : Argument → String
  | value v => Value.applied "Value" [v.diagnostic]
  | typed v type =>
    "Typed \x7b value: " ++ v.diagnostic ++ ", ty: " ++ type.diagnostic ++ " \x7d"
  | supplier _ => "Supplier"

end Argument

/-- An argument ready for its placeholder. -/
structure Resolved where
  value : Value
  /-- The null of its type. -/
  type : Value
  /-- Whether the type was given when the argument was bound. -/
  explicit : Bool

namespace Resolved

/-- A value with the type of its variant. -/
def ofValue (value : Value) : Resolved :=
  ⟨value, value.asNull, false⟩

end Resolved

/-- A computation that may fail, and that records events either way. -/
abbrev Recording := ExceptT Failure (StateM History)

/-- Adds an event to the history. -/
def record (event : Event) : StateM History Unit :=
  modify (event :: ·)

namespace Argument

/-- The argument's value and type; a supplier is called for it. -/
def realize : Argument → Recording Resolved
  | value v => pure (.ofValue v)
  | typed v type => pure ⟨v, type, true⟩
  | supplier s => do
    let history ← get
    record (.called s.id)
    match s.answer history with
    | .ok v => pure (.ofValue v)
    | .error failure => throw failure

end Argument

end SqlTemplate
