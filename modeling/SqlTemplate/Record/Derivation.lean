import SqlTemplate.Finder
import SqlTemplate.Record.Declaration

/-!
# Finders of declared records

The finder of a record is made from the rules for its fields. A field that is left out is not in it;
the others are values under their names, or finders in scopes of theirs. A declaration that cannot
be read makes none.
-/

namespace SqlTemplate

/-- The finder of a record with rules for its fields; `value` and `inner` are what the fields hold,
by identifier. -/
def FieldRule.finder (typeName : String) (value : String → Value) (inner : String → Finder)
    (rules : List FieldRule) : Finder :=
  let shown := rules.filter fun rule => !rule.skipped
  let (nested, plain) := shown.partition FieldRule.nested
  .record typeName (plain.map fun rule => (rule.name, value rule.identifier))
    (nested.map fun rule => (rule.name, inner rule.identifier))

/-- The finder that its declaration gives a record. -/
def DeclaredRecord.finder (r : DeclaredRecord) (typeName : String) (value : String → Value)
    (inner : String → Finder) : Except DeclarationFault Finder :=
  r.rules.map (FieldRule.finder typeName value inner)

end SqlTemplate
