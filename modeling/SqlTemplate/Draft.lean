import SqlTemplate.Attributes
import SqlTemplate.Binding

/-!
# Drafts

A draft is what is being filled in for one execution: a binding, and the attributes of the template.
Statements and batches are filled by the same calls. A call that fails leaves the draft as it was.

A list is bound as one named parameter for each of its values, together with an attribute that holds
the markers of all of them.
-/

namespace SqlTemplate

/-- A binding and attributes that are being filled in. -/
structure Draft where
  binding : Binding
  attributes : Attributes

/-- A call that fills in a draft. -/
inductive BindCall where
  | positional (position : Nat) (value : Value)
  | named (name : String) (argument : Argument)
  | finder (finder : Finder)
  /-- One parameter for each value, and the attribute `key` for their markers. -/
  | list (key : String) (values : List Value)
  | define (key value : String)
  /-- The attribute `key` for all of the values. -/
  | defineList (key : String) (values : List String)

namespace Draft

/-! ## Lists -/

/-- Whether two dots follow each other. -/
def hasDoubleDot : List Char → Bool
  | '.' :: '.' :: _ => true
  | _ :: rest => hasDoubleDot rest
  | [] => false

/-- Whether the parameters of a list with this key have well-formed names. -/
def isListKey (key : String) : Bool :=
  let cs := key.toList
  !cs.isEmpty && !hasDoubleDot cs && cs.all fun c => isNameChar c || c == '.'

/-- The name of the parameter for one value of a list. -/
def listParameter (key : String) (index : Nat) : String :=
  "__" ++ key ++ "_" ++ toString index

/-- The parameters of a list with their values. -/
def listArguments (key : String) (values : List Value) : List (String × Argument) :=
  values.mapIdx fun index value => (listParameter key index, .value value)

/-- The markers of the parameters of a list, commas between them. -/
def listMarkers (s : Style) (key : String) (count : Nat) : String :=
  Text.joined "," ((List.range count).map fun index => s.marker (listParameter key index))

/-- Why a list cannot be bound. -/
def listFault (key : String) (values : List Value) : Option Failure :=
  if isListKey key then
    if values.isEmpty then some (.emptyList "bind_list" key) else none
  else
    some (.badListKey key)

/-- Why a list of texts cannot be defined. -/
def defineListFault (key : String) (values : List String) : Option Failure :=
  if values.isEmpty then some (.emptyList "define_list" key) else none

/-! ## Calls -/

/-- The draft with an attribute. -/
def define (d : Draft) (key value : String) : Draft :=
  { d with attributes := d.attributes.define key value }

/-- The draft with another binding. -/
def withBinding (d : Draft) (change : Binding → Binding) : Draft :=
  { d with binding := change d.binding }

/-- The draft after a call, markers being written in a style. -/
def apply (s : Style) (d : Draft) : BindCall → Except Failure Draft
  | .positional position value => .ok (d.withBinding (·.addPositional position (.value value)))
  | .named name argument => .ok (d.withBinding (·.addNamed name argument))
  | .finder finder => .ok (d.withBinding (·.addFinder finder))
  | .list key values =>
    match listFault key values with
    | some failure => .error failure
    | none =>
      .ok ((d.withBinding (·.addNameds (listArguments key values))).define key
        (listMarkers s key values.length))
  | .define key value => .ok (d.define key value)
  | .defineList key values =>
    match defineListFault key values with
    | some failure => .error failure
    | none => .ok (d.define key (Text.joined ", " values))

/-- The record of a failure, if there is one. -/
def faultRecords (fault : Option Failure) : List LogRecord :=
  fault.toList.map fun failure => ⟨.error, failure.message⟩

/-- The records of a call: its failure, or the arguments that it replaces. -/
def records (d : Draft) : BindCall → List LogRecord
  | .positional position _ => d.binding.positionalRecords position
  | .named name _ => d.binding.namedRecords name
  | .list key values =>
    match listFault key values with
    | some failure => faultRecords (some failure)
    | none => d.binding.namedsRecords (listArguments key values)
  | .defineList key values => faultRecords (defineListFault key values)
  | _ => []

end Draft

end SqlTemplate
