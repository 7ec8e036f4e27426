import SqlTemplate.Finder
import SqlTemplate.Log

/-!
# Bindings

The arguments gathered for one execution of a statement: by position, by name, and finders in the
order in which they were registered. A later argument replaces an earlier one of its place.
-/

namespace SqlTemplate

/-- The arguments bound so far. -/
structure Binding where
  positional : Table Nat Argument
  named : Table String Argument
  finders : List Finder

namespace Binding

/-- Nothing bound. -/
def empty : Binding := ⟨∅, ∅, []⟩

instance : Inhabited Binding := ⟨empty⟩

/-- The binding with an argument at a position. -/
def addPositional (b : Binding) (position : Nat) (argument : Argument) : Binding :=
  { b with positional := b.positional.insert position argument }

/-- The binding with an argument for a name. -/
def addNamed (b : Binding) (name : String) (argument : Argument) : Binding :=
  { b with named := b.named.insert name argument }

/-- The binding with a finder after those it has. -/
def addFinder (b : Binding) (finder : Finder) : Binding :=
  { b with finders := b.finders ++ [finder] }

/-- The binding with several arguments by position. -/
def addPositionals (b : Binding) (entries : List (Nat × Argument)) : Binding :=
  entries.foldl (fun b (position, argument) => b.addPositional position argument) b

/-- The binding with several arguments by name. -/
def addNameds (b : Binding) (entries : List (String × Argument)) : Binding :=
  entries.foldl (fun b (name, argument) => b.addNamed name argument) b

/-- Whether nothing is bound and no finder registered. -/
def isEmpty (b : Binding) : Bool :=
  b.positional.isEmpty && b.named.isEmpty && b.finders.isEmpty

/-- Every name bound or announced by a finder, in order. -/
def names (b : Binding) : List String :=
  let all := b.named.keys ++ b.finders.flatMap Finder.names
  (Table.ofList (all.map fun name => (name, ()))).keys

/-- The entries of a table between braces. -/
def entriesText {κ : Type} (key : κ → String) (entries : List (κ × Argument)) : String :=
  "\x7b" ++ ",".intercalate (entries.map fun (k, argument) => key k ++ ":" ++ argument.text) ++
    "\x7d"

/-- Everything bound, in words. -/
def text (b : Binding) : String :=
  "\x7bpositional:" ++ entriesText toString b.positional.entries ++
    ", named:" ++ entriesText id b.named.entries ++
    ", finder:[" ++ ",".intercalate (b.finders.map Finder.description) ++ "]\x7d"

/-! ## Records of replaced arguments -/

/-- The record of an argument that takes the place of another at a position. -/
def positionalRecords (b : Binding) (position : Nat) : List LogRecord :=
  (b.positional.get? position).toList.map fun previous =>
    ⟨.debug, "Positional argument " ++ toString position ++ " rebound, discarding " ++
      previous.text⟩

/-- The record of an argument that takes the place of another of its name. -/
def namedRecords (b : Binding) (name : String) : List LogRecord :=
  (b.named.get? name).toList.map fun previous =>
    ⟨.debug, "Named argument `" ++ name ++ "` rebound, discarding " ++ previous.text⟩

/-- The records of several arguments by position, bound one after the other. -/
def positionalsRecords (b : Binding) : List (Nat × Argument) → List LogRecord
  | [] => []
  | (position, argument) :: rest =>
    b.positionalRecords position ++ (b.addPositional position argument).positionalsRecords rest

/-- The records of several arguments by name, bound one after the other. -/
def namedsRecords (b : Binding) : List (String × Argument) → List LogRecord
  | [] => []
  | (name, argument) :: rest =>
    b.namedRecords name ++ (b.addNamed name argument).namedsRecords rest

end Binding

end SqlTemplate
