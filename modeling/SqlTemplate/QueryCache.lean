import SqlTemplate.Query

/-!
# Remembered queries

A cache keeps the queries of templates that were parsed before. What is kept is an entry: the query
under an identity, so that sharing can be observed. The first entry stored for a template stays
until it is removed; a bounded cache removes the least recently used template when it is full.
-/

namespace SqlTemplate

/-- A query with its identity: entries with one identity are one object. -/
structure Entry where
  id : Nat
  query : Query
  deriving DecidableEq

/-- A cache of queries by template. -/
inductive QueryCache where
  /-- At most `capacity` entries, the most recently used first. -/
  | bounded (capacity : Nat) (entries : List (String × Entry))
  /-- Entries are never removed. -/
  | unbounded (entries : List (String × Entry))
  /-- Nothing is kept. -/
  | disabled

namespace QueryCache

/-- The capacity of a bounded cache unless another one is asked for. -/
def defaultCapacity : Nat := 1000

/-- An empty bounded cache; a capacity of zero stands for the default one. -/
def ofCapacity (capacity : Nat) : QueryCache :=
  bounded (if capacity = 0 then defaultCapacity else capacity) []

/-- The entries that are kept. -/
def entries : QueryCache → List (String × Entry)
  | bounded _ entries => entries
  | unbounded entries => entries
  | disabled => []

/-- The number of entries. -/
def size (c : QueryCache) : Nat := c.entries.length

/-- The greatest number of entries, where there is one. -/
def capacity? : QueryCache → Option Nat
  | bounded capacity _ => some capacity
  | _ => none

/-- The cache without entries. -/
def clear : QueryCache → QueryCache
  | bounded capacity _ => bounded capacity []
  | unbounded _ => unbounded []
  | disabled => disabled

/-- The entry of a template, which is not thereby used. -/
def peek? (c : QueryCache) (template : String) : Option Entry :=
  c.entries.lookup template

/-- The cache after a template was used: in a bounded cache it becomes the most recent one. -/
def touch (c : QueryCache) (template : String) : QueryCache :=
  match c with
  | bounded capacity entries =>
    match entries.lookup template with
    | some entry => bounded capacity ((template, entry) :: entries.filter (·.1 != template))
    | none => c
  | _ => c

/-- The entry of a template, and the cache after that use of it. -/
def get (c : QueryCache) (template : String) : Option Entry × QueryCache :=
  (c.peek? template, c.touch template)

/-- What storing an entry did. -/
structure Insertion where
  /-- The entry that the cache holds for the template, or the given one if it holds none. -/
  stored : Entry
  /-- The template that had to go. -/
  evicted : Option String
  cache : QueryCache

/-- Stores an entry unless the template has one. -/
def insert (c : QueryCache) (template : String) (entry : Entry) : Insertion :=
  match c.peek? template with
  | some existing => ⟨existing, none, c.touch template⟩
  | none =>
    match c with
    | bounded capacity entries =>
      let all := (template, entry) :: entries
      if entries.length < capacity then ⟨entry, none, bounded capacity all⟩
      else ⟨entry, all.getLast?.map Prod.fst, bounded capacity all.dropLast⟩
    | unbounded entries => ⟨entry, none, unbounded (entries ++ [(template, entry)])⟩
    | disabled => ⟨entry, none, disabled⟩

end QueryCache

end SqlTemplate
