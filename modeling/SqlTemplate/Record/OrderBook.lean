import SqlTemplate.Conversion
import SqlTemplate.Record.Derivation

/-!
# Records as finders

Records of an order book, each with its declaration and with the finder that this gives it: plain
fields under their parameter names, nested records in a scope of theirs.
-/

namespace SqlTemplate

/-- The place of a person. -/
structure Address where
  city : String
  zip : Option String

namespace Address

/-- The address whose fields are read from values. -/
def ofValues (city zip : Value) : Except Failure Address := do
  let city ← NativeType.ofValue .text city
  let zip ← NativeType.ofValue (.optional .text) zip
  pure ⟨city, zip⟩

/-- The fields as they are. -/
def declared : DeclaredRecord :=
  ⟨[], [⟨"city", []⟩, ⟨"zip", []⟩]⟩

/-- All fields under their own names. -/
def finder (a : Address) : Finder :=
  .record "Address"
    [("city", NativeType.toValue .text a.city), ("zip", NativeType.toValue (.optional .text) a.zip)]
    []

end Address

/-- A person with an account. -/
structure Customer where
  id : Uuid
  name : String
  balance : Decimal
  address : Address

namespace Customer

/-- The customer whose fields are read in order, the plain ones from values. -/
def ofValues (id name balance : Value) (address : Except Failure Address) :
    Except Failure Customer := do
  let id ← NativeType.ofValue .uuid id
  let name ← NativeType.ofValue .text name
  let balance ← NativeType.ofValue .decimal balance
  let address ← address
  pure ⟨id, name, balance, address⟩

/-- The password has its place in the record and none in the finder. -/
def declared : DeclaredRecord :=
  ⟨[],
    [⟨"id", []⟩, ⟨"_name", [.own [⟨"name", some (.text "full_name")⟩]]⟩, ⟨"balance", []⟩,
      ⟨"password", [.own [⟨"skip", none⟩]]⟩, ⟨"address", [.own [⟨"nested", none⟩]]⟩]⟩

/-- The name goes by `full_name`; the address is nested. -/
def finder (c : Customer) : Finder :=
  .record "Customer"
    [("id", NativeType.toValue .uuid c.id), ("full_name", NativeType.toValue .text c.name),
      ("balance", NativeType.toValue .decimal c.balance)]
    [("address", c.address.finder)]

end Customer

/-- What a customer buys. -/
structure Order where
  number : Integer .int64
  shippedOn : Option Date
  total : Binary .double
  billTo : Customer
  shipTo : Address

namespace Order

/-- The order whose fields are read in order, the plain ones from values. -/
def ofValues (number shippedOn total : Value) (billTo : Except Failure Customer)
    (shipTo : Except Failure Address) : Except Failure Order := do
  let number ← NativeType.ofValue (.integer .int64) number
  let shippedOn ← NativeType.ofValue (.optional .date) shippedOn
  let total ← NativeType.ofValue .float64 total
  let billTo ← billTo
  let shipTo ← shipTo
  pure ⟨number, shippedOn, total, billTo, shipTo⟩

/-- All fields are renamed, but for two that have names of their own. -/
def declared : DeclaredRecord :=
  ⟨[.own [⟨"rename_all", some (.text "camelCase")⟩]],
    [⟨"order_id", []⟩, ⟨"shipped_on", []⟩,
      ⟨"total_amount", [.own [⟨"name", some (.text "raw_total")⟩]]⟩,
      ⟨"bill_to", [.own [⟨"nested", none⟩]]⟩,
      ⟨"_ship_to", [.own [⟨"nested", none⟩, ⟨"name", some (.text "ship.to")⟩]]⟩]⟩

/-- Names are in camel case, but for the total and for the place of delivery, which have names of
their own. -/
def finder (o : Order) : Finder :=
  .record "Order"
    [("orderId", NativeType.toValue (.integer .int64) o.number),
      ("shippedOn", NativeType.toValue (.optional .date) o.shippedOn),
      ("raw_total", NativeType.toValue .float64 o.total)]
    [("billTo", o.billTo.finder), ("ship.to", o.shipTo.finder)]

end Order

/-- A value and a finder; the value goes by the name that the scope of the finder would give it. -/
structure Pair where
  first : Value
  rest : Finder

namespace Pair

/-- The name of the value has a dot. -/
def declared : DeclaredRecord :=
  ⟨[],
    [⟨"_first", [.own [⟨"name", some (.text "rest.first")⟩]]⟩, ⟨"rest", [.own [⟨"nested", none⟩]]⟩]⟩

/-- The value under `rest.first`, the finder under `rest`. -/
def finder (p : Pair) : Finder :=
  .record "Pair" [("rest.first", p.first)] [("rest", p.rest)]

end Pair

/-- Four numbers in a row, their names in a style. -/
structure Renamed where
  style : CaseStyle
  start : Int

namespace Renamed

/-- The name of the record in each style. -/
def typeName : CaseStyle → String
  | .flat => "Flat"
  | .upperFlat => "UpperFlat"
  | .camel => "Camel"
  | .pascal => "Pascal"
  | .snake => "Snake"
  | .upperSnake => "Screaming"
  | .kebab => "Kebab"

/-- The identifiers of the fields. -/
def identifiers : List String := ["user_id", "_private_name", "http2_server", "x"]

/-- All fields are renamed in the style with the name `styleName`. -/
def declared (styleName : String) : DeclaredRecord :=
  ⟨[.own [⟨"rename_all", some (.text styleName)⟩]], identifiers.map (⟨·, []⟩)⟩

/-- The fields under their names in the style. -/
def finder (r : Renamed) : Finder :=
  let field (index : Nat) (identifier : String) : String × Value :=
    (DeclaredField.defaultName (some r.style) identifier,
      .integer .int32 (some (Integer.wrapping .int32 (r.start + index))))
  .record (typeName r.style) (identifiers.mapIdx field) []

end Renamed

end SqlTemplate
