import SqlTemplate.Argument
import SqlTemplate.Attributes
import SqlTemplate.Query
import SqlTemplate.Text.Joined

/-!
# Finders

A finder answers for named parameters that have no argument of their own. Finders are trees: tables
and records of values at the leaves, and scopes that put a name and a dot in front of everything
below them. Others compute their answers from the name and from the statement.

`find?` strips scopes from the name on the way down, `names` puts them on on the way up.
-/

namespace SqlTemplate

/-- What a finder sees of the statement that is being bound. -/
structure BindingSite where
  /-- The template with its attributes in place. -/
  template : String
  query : Query
  attributes : Attributes

/-- A source of arguments by name. -/
inductive Finder where
  /-- Values by name. -/
  | table (values : Table String Value)
  /-- Another finder, its names after `scope` and a dot. -/
  | under (scope : String) (inner : Finder)
  /-- Arguments computed from the statement and the name; the names are not known beforehand. -/
  | computed (description : String) (answer : BindingSite → String → Option Argument)
  /-- Arguments of any form by name, the first one of a name being the one that counts. -/
  | arguments (entries : List (String × Argument))
  /-- The fields of a record: plain ones, and those that are finders themselves. -/
  | record (typeName : String) (fields : List (String × Value)) (nested : List (String × Finder))
  /-- A finder behind a reference. -/
  | reference (inner : Finder)

namespace Finder

/-- The name inside a scope; none for a name that is not in it. -/
def insideScope? (scope name : String) : Option String :=
  (List.isPrefixOf? (scope.toList ++ ['.']) name.toList).map String.ofList

/-- A name put into a scope. -/
def intoScope (scope name : String) : String :=
  scope ++ "." ++ name

mutual

/-- The argument for a name. -/
def find? (site : BindingSite) : Finder → String → Option Argument
  | table values, name => (values.get? name).map .value
  | under scope inner, name =>
    match insideScope? scope name with
    | some rest => inner.find? site rest
    | none => none
  | computed _ answer, name => answer site name
  | arguments entries, name => entries.lookup name
  | record _ fields nested, name =>
    match fields.lookup name with
    | some v => some (.value v)
    | none => findNested? site nested name
  | reference inner, name => inner.find? site name

/-- The answer of the first finder whose scope the name is in. -/
def findNested? (site : BindingSite) : List (String × Finder) → String → Option Argument
  | [], _ => none
  | (scope, inner) :: rest, name =>
    match insideScope? scope name with
    | some inside => inner.find? site inside
    | none => findNested? site rest name

end

mutual

/-- The names that the finder is known to answer. -/
def names : Finder → List String
  | table values => values.keys
  | under scope inner => inner.names.map (intoScope scope)
  | computed .. => []
  | arguments entries => entries.map Prod.fst
  | record _ fields nested => fields.map Prod.fst ++ nestedNames nested
  | reference inner => inner.names

/-- The names of nested finders in their scopes. -/
def nestedNames : List (String × Finder) → List String
  | [] => []
  | (scope, inner) :: rest => inner.names.map (intoScope scope) ++ nestedNames rest

end

/-- The finder in descriptions. -/
def description : Finder → String
  | table values =>
    "\x7b" ++
      Text.joined "," (values.entries.map fun (name, value) => name ++ ":" ++ value.text) ++ "\x7d"
  | under scope inner => scope ++ "." ++ inner.description
  | computed description _ => description
  | arguments _ => "arguments"
  | record typeName _ _ => typeName
  | reference inner => inner.description

/-- The finder for a list of values by name. -/
def ofValues (entries : List (String × Value)) : Finder :=
  table (Table.ofList entries)

end Finder

end SqlTemplate
