import SqlTemplate.Lexer

/-!
# Queries

A query is a template brought to single placeholders: its SQL has one question mark for each
parameter, and the parameters are listed in that order. A template has either named or positional
parameters, never both.
-/

namespace SqlTemplate

/-- The parameters of a query in the order of their placeholders. -/
inductive Parameters where
  /-- So many positional parameters. -/
  | positional (count : Nat)
  /-- A name for each placeholder; equal names stand for one parameter. -/
  | named (names : List String)
  deriving DecidableEq, Repr

namespace Parameters

/-- The number of placeholders. -/
def size : Parameters → Nat
  | positional count => count
  | named names => names.length

/-- Whether the parameters are positional; a query without parameters counts as such. -/
def isPositional : Parameters → Bool
  | positional _ => true
  | named _ => false

/-- A name for each placeholder, a question mark for a positional one. -/
def names : Parameters → List String
  | positional count => List.replicate count "?"
  | named names => names

/-- The different names in the order of their first appearance. -/
def distinctNames : Parameters → List String
  | positional _ => []
  | named names => names.eraseDups

end Parameters

/-- SQL with placeholders, and what they stand for. -/
structure Query where
  sql : String
  parameters : Parameters
  deriving DecidableEq, Repr

namespace Query

/-! ## Building a query -/

/-- A query under construction. -/
structure Builder where
  sql : String
  names : List String
  positional : Nat

namespace Builder

/-- Nothing built yet. -/
def empty : Builder := ⟨"", [], 0⟩

/-- Text that is copied. -/
def addText (b : Builder) (text : String) : Builder :=
  { b with sql := b.sql ++ text }

/-- A named parameter; refused after a positional one. -/
def addNamed (b : Builder) (name : String) : Except LexFault Builder :=
  if b.positional = 0 then .ok { b with sql := b.sql ++ "?", names := b.names ++ [name] }
  else .error .mixedParameters

/-- A positional parameter; refused after a named one. -/
def addPositional (b : Builder) : Except LexFault Builder :=
  if b.names = [] then .ok { b with sql := b.sql ++ "?", positional := b.positional + 1 }
  else .error .mixedParameters

/-- The part of the query that a token stands for. -/
def addToken (b : Builder) (t : Token) : Except LexFault Builder :=
  match t.kind with
  | .named => b.addNamed (String.ofList t.text)
  | .positional => b.addPositional
  | _ => .ok (b.addText (String.ofList t.text))

/-- The query as far as it is built. -/
def build (b : Builder) : Query where
  sql := b.sql
  parameters := if b.names = [] then .positional b.positional else .named b.names

/-- The query of the items of a lexer, or the first failure among them. -/
def addItems (b : Builder) : List LexItem → Except LexFailure Query
  | [] => .ok b.build
  | .error failure :: _ => .error failure
  | .ok token :: rest =>
    match b.addToken token with
    | .ok b' => b'.addItems rest
    | .error fault => .error ⟨fault, token.offset⟩

end Builder

/-- The query of a template in a style. -/
def ofTemplate (s : Style) (template : String) : Except LexFailure Query :=
  Builder.empty.addItems (lex s template)

end Query

end SqlTemplate
