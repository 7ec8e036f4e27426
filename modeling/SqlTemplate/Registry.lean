import SqlTemplate.Argument
import SqlTemplate.Conversion
import SqlTemplate.Log

/-!
# Adapters by type

A registry says, for each variant, how an argument of that type becomes the value that a prepared
statement receives. The type counts that the argument was bound with. Nulls need no adapter but a
registered type, and an argument without a type is passed on as it is.
-/

namespace SqlTemplate

/-- How the values of a type are prepared. -/
abbrev Adapter := Value → Except Failure Value

/-- An adapter and the type that it is registered for. -/
structure Registration where
  variant : Variant
  typeName : String
  adapt : Adapter

/-- Adapters, at most one for each variant. -/
structure Registry where
  registrations : List Registration

namespace Registry

/-- No adapter. -/
def empty : Registry := ⟨[]⟩

/-- The registration for the type that a value describes. -/
def find? (r : Registry) (type : Value) : Option Registration :=
  r.registrations.find? fun registration => registration.variant == type.variant

/-- Whether there is an adapter for the type that a value describes. -/
def isRegistered (r : Registry) (type : Value) : Bool :=
  (r.find? type).isSome

/-- The registry with an adapter for the type that a value describes, in place of an earlier one. -/
def register (r : Registry) (type : Value) (adapt : Adapter) : Registry :=
  ⟨r.registrations.filter (fun registration => registration.variant != type.variant) ++
    [⟨type.variant, type.typeName, adapt⟩]⟩

/-- The record of an adapter that takes the place of another. -/
def registerRecords (r : Registry) (type : Value) : List LogRecord :=
  if r.isRegistered type then
    [⟨.debug, "Argument adapter for " ++ type.typeName ++ " replaced"⟩]
  else
    []

/-- The adapter that converts to a native type and back, which yields the variant of the type. -/
def conversion (t : NativeType) : Adapter :=
  fun v => (t.ofValue v).map t.toValue

/-- The registry with the conversion to a native type. -/
def registerType (r : Registry) (t : NativeType) : Registry :=
  r.register t.descriptor (conversion t)

/-- The native types of the scalar variants. -/
def scalarTypes : List NativeType :=
  [.bool, .integer .int8, .integer .int16, .integer .int32, .integer .int64, .integer .uint8,
    .integer .uint16, .integer .uint32, .integer .uint64, .float32, .float64, .decimal, .char,
    .text, .bytes, .date, .time, .timestamp, .zonedTimestamp, .uuid]

/-- The registry with the conversions of all scalar variants. Lists are left out. -/
def standard : Registry :=
  scalarTypes.foldl registerType empty

/-- The value that a prepared statement receives for an argument. -/
def prepare (r : Registry) (argument : Resolved) : Except Failure Value :=
  if argument.type.variant = .null then .ok argument.value
  else
    match r.find? argument.type with
    | none => .error (.unregistered argument.type.typeName argument.value.text)
    | some registration =>
      if argument.value.isNull then .ok argument.type.asNull
      else
        match registration.adapt argument.value with
        | .ok v => .ok v
        | .error source =>
          .error (.adapter argument.type.typeName argument.value.text source)

/-- The names of the registered types, in order. -/
def diagnostic (r : Registry) : String :=
  let names := (r.registrations.map (·.typeName)).mergeSort fun a b => decide (a ≤ b)
  "TypeRegistry \x7b types: " ++ Text.escapedNames names ++ " \x7d"

/-! ## Adapters by name -/

/-- Passes values on. -/
def identityAdapter : Adapter := .ok

/-- Rejects every value. -/
def rejectingAdapter : Adapter := fun v =>
  .error (.context "adapter" (.reported ("rejected " ++ v.text)))

/-- Turns values into the text of their literal. -/
def textAdapter : Adapter := fun v => .ok (.varchar (some v.text))

/-- Turns values into the null of their type. -/
def nullAdapter : Adapter := fun v => .ok v.asNull

end Registry

end SqlTemplate
