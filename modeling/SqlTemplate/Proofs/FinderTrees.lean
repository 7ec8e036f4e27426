import SqlTemplate.Proofs.FinderEntries
import SqlTemplate.Record.OrderBook

/-!
# Trees of tables and records

The finders that are made of tables, scopes, references and the records of an order book, nested to
any depth, with a flattening of each that is read off the tree and says nothing about looking up.
Every tree lists the names of its flattening and finds the first value of a name in it.

A scope may be empty or have dots in it, and so may the keys of a table, so a name can be reached in
several ways: the value of a pair goes by the name that its nested finder may have as well.
-/

namespace SqlTemplate

open Finder (inScope valueEntries ScopesApart)

/-- A finder made of tables and records. -/
inductive FinderTree where
  | table (values : Table String Value)
  | under (scope : String) (inner : FinderTree)
  | address (a : Address)
  | customer (c : Customer)
  | order (o : Order)
  | pair (first : Value) (rest : FinderTree)
  | renamed (r : Renamed)
  | reference (inner : FinderTree)

/-! ## Flattenings -/

/-- Both fields of an address are plain. -/
def Address.flattening (a : Address) : List (String × Value) :=
  [("city", .varchar (some a.city)), ("zip", .varchar a.zip)]

/-- Three plain fields, and the address in its scope. -/
def Customer.flattening (c : Customer) : List (String × Value) :=
  [("id", .uuid (some c.id)), ("full_name", .varchar (some c.name)),
    ("balance", .decimal (some c.balance) 0 0)] ++
  inScope "address" c.address.flattening

/-- Three plain fields, and then the customer and the place of delivery, each in its scope. -/
def Order.flattening (o : Order) : List (String × Value) :=
  [("orderId", .integer .int64 (some o.number)), ("shippedOn", .date o.shippedOn),
    ("raw_total", .float64 (some o.total))] ++
  inScope "billTo" o.billTo.flattening ++ inScope "ship.to" o.shipTo.flattening

/-- The name of a field of the renamed record. -/
def Renamed.fieldName (r : Renamed) (identifier : String) : String :=
  DeclaredField.defaultName (some r.style) identifier

/-- The number at a place of the renamed record. -/
def Renamed.number (r : Renamed) (index : Int) : Value :=
  .integer .int32 (some (Integer.wrapping .int32 (r.start + index)))

/-- Four plain fields, their numbers one after the other. -/
def Renamed.flattening (r : Renamed) : List (String × Value) :=
  [(r.fieldName "user_id", r.number 0), (r.fieldName "_private_name", r.number 1),
    (r.fieldName "http2_server", r.number 2), (r.fieldName "x", r.number 3)]

namespace FinderTree

/-- The names of a tree with their values, in order. -/
def flattening : FinderTree → List (String × Value)
  | table values => values.entries
  | under scope inner => inScope scope inner.flattening
  | address a => a.flattening
  | customer c => c.flattening
  | order o => o.flattening
  | pair first rest => ("rest.first", first) :: inScope "rest" rest.flattening
  | renamed r => r.flattening
  | reference inner => inner.flattening

/-- The finder that the tree stands for. -/
def finder : FinderTree → Finder
  | table values => .table values
  | under scope inner => .under scope inner.finder
  | address a => a.finder
  | customer c => c.finder
  | order o => o.finder
  | pair first rest => Pair.finder ⟨first, rest.finder⟩
  | renamed r => r.finder
  | reference inner => .reference inner.finder

end FinderTree

/-! ## The entries of records -/

theorem valueEntries_inScope (scope : String) (entries : List (String × Value)) :
    inScope scope (valueEntries entries) = valueEntries (inScope scope entries) := by
  simp [inScope, valueEntries]

theorem valueEntries_append (entries others : List (String × Value)) :
    valueEntries (entries ++ others) = valueEntries entries ++ valueEntries others :=
  List.map_append

theorem NativeType.toValue_optional_text (text : Option String) :
    (optional .text).toValue text = .varchar text := by
  cases text <;> rfl

theorem NativeType.toValue_optional_date (date : Option Date) :
    (optional .date).toValue date = .date date := by
  cases date <;> rfl

theorem Address.entries_finder (a : Address) : a.finder.entries = valueEntries a.flattening := by
  rw [finder, NativeType.toValue_optional_text, Finder.entries, Finder.nestedEntries,
    List.append_nil]
  rfl

theorem Customer.entries_finder (c : Customer) : c.finder.entries = valueEntries c.flattening := by
  rw [finder, Finder.entries, Finder.nestedEntries, Finder.nestedEntries, List.append_nil,
    c.address.entries_finder, valueEntries_inScope, ← valueEntries_append]
  rfl

theorem Order.entries_finder (o : Order) : o.finder.entries = valueEntries o.flattening := by
  rw [finder, NativeType.toValue_optional_date, Finder.entries, Finder.nestedEntries,
    Finder.nestedEntries, Finder.nestedEntries, List.append_nil, o.billTo.entries_finder,
    o.shipTo.entries_finder, valueEntries_inScope, valueEntries_inScope, ← valueEntries_append,
    ← valueEntries_append, ← List.append_assoc]
  rfl

theorem Renamed.entries_finder (r : Renamed) : r.finder.entries = valueEntries r.flattening := by
  rw [finder, Finder.entries, Finder.nestedEntries, List.append_nil]
  rfl

/-! ## The scopes of records -/

theorem Address.listed_finder (a : Address) : a.finder.Listed :=
  .record (by simp) .nil

theorem Customer.listed_finder (c : Customer) : c.finder.Listed :=
  .record (by simpa using c.address.listed_finder) (List.pairwise_singleton _ _)

/-- The scopes of the two places begin with different letters. -/
theorem scopesApart_places : ScopesApart "billTo" "ship.to" := by
  intro name hbill
  obtain ⟨rest, hrest⟩ := Option.ne_none_iff_exists'.mp hbill
  rw [Option.eq_none_iff_forall_ne_some]
  intro rest' hrest'
  rw [Finder.insideScope?_eq_some_iff] at hrest hrest'
  have hname := congrArg String.toList (hrest.symm.trans hrest')
  simp [Finder.intoScope] at hname

theorem Order.listed_finder (o : Order) : o.finder.Listed :=
  .record (by simpa using ⟨o.billTo.listed_finder, o.shipTo.listed_finder⟩)
    (by simpa using scopesApart_places)

namespace FinderTree

theorem listed_finder (t : FinderTree) : t.finder.Listed := by
  induction t with
  | table values => exact .table values
  | under scope inner ih => exact .under ih
  | address a => exact a.listed_finder
  | customer c => exact c.listed_finder
  | order o => exact o.listed_finder
  | pair first rest ih => exact .record (by simpa using ih) (List.pairwise_singleton _ _)
  | renamed r => exact .record (by simp) .nil
  | reference inner ih => exact .reference ih

/-- A tree's finder has the entries of its flattening. -/
theorem entries_finder (t : FinderTree) : t.finder.entries = valueEntries t.flattening := by
  induction t with
  | table values => rfl
  | under scope inner ih =>
      rw [finder, Finder.entries, ih, valueEntries_inScope]
      rfl
  | address a => exact a.entries_finder
  | customer c => exact c.entries_finder
  | order o => exact o.entries_finder
  | pair first rest ih =>
      rw [finder, Pair.finder, Finder.entries, Finder.nestedEntries, Finder.nestedEntries,
        List.append_nil, ih, valueEntries_inScope, ← valueEntries_append]
      rfl
  | renamed r => exact r.entries_finder
  | reference inner ih => exact ih

/-- A tree lists the names of its flattening in order. For every name it finds the value that comes
first with this name in the flattening, and it finds none just for the names that it does not
list. -/
theorem finds_first_listed (t : FinderTree) (site : BindingSite) :
    t.finder.names = t.flattening.map Prod.fst ∧
    ∀ name, t.finder.find? site name = (t.flattening.lookup name).map .value ∧
      (t.finder.find? site name = none ↔ name ∉ t.finder.names) := by
  have hnames : t.finder.names = t.flattening.map Prod.fst := by
    rw [Finder.names_eq_entries, t.entries_finder, Finder.map_fst_valueEntries]
  refine ⟨hnames, fun name => ⟨?_, Finder.find?_eq_none_iff t.listed_finder site name⟩⟩
  rw [Finder.find?_eq_lookup t.listed_finder, t.entries_finder, valueEntries, lookup_map_snd]

end FinderTree

end SqlTemplate
