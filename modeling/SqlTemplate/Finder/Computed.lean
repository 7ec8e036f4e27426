import SqlTemplate.Finder

/-!
# Computed finders

Finders that make their answers from the name that is looked for, or from the statement.
-/

namespace SqlTemplate.Finder

/-- The rest of a text after a front, none when it does not begin with it. -/
def afterFront? (front text : String) : Option String :=
  (List.isPrefixOf? front.toList text.toList).map String.ofList

/-- A count as an argument. -/
def countArgument (n : Nat) : Argument :=
  .value (.integer .uint64 (some (Integer.wrapping .uint64 n)))

/-- A text as an argument. -/
def textArgument (text : String) : Argument :=
  .value (.varchar (some text))

/-- The description of finders that are functions of the name. -/
def functionDescription : String :=
  "stencil_core::finder::FnArguments<fn(&'_ str) -> " ++
    "core::option::Option<stencil_core::value::Value>>"

/-- Answers names that begin with `upper_` by the rest of the name in capitals. -/
def upperCase : Finder :=
  .computed functionDescription fun _ name =>
    (afterFront? "upper_" name).map fun rest => textArgument (rest.map Char.toUpper)

/-- Answers every name by the number of its bytes. -/
def nameLength : Finder :=
  .computed functionDescription fun _ name => some (countArgument name.utf8ByteSize)

/-- Answers by what it sees of the statement: the texts before and after parsing, the number of
parameters, and attributes. -/
def echo : Finder :=
  .computed "driver::Echo" fun site name =>
    match name with
    | "sql" => some (textArgument site.query.sql)
    | "rendered" => some (textArgument site.template)
    | "count" => some (countArgument site.query.parameters.size)
    | _ =>
      match afterFront? "attr." name with
      | some key => (site.attributes.get? key).map textArgument
      | none => none

end SqlTemplate.Finder
