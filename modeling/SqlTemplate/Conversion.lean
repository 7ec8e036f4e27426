import SqlTemplate.Failure

/-!
# Conversion of values to native types

A native type reads the variant it is written in. Numbers also read the other numeric variants, as
far as the content fits: integers and decimals exactly, floating point numbers to the nearest.
-/

namespace SqlTemplate

open ConversionFault

/-- The reading of a value as a native type, or why there is none. -/
abbrev Reading (α : Type) := Except Failure α

namespace Reading

/-- The failure to convert. -/
def fail {α : Type} (fault : ConversionFault) : Reading α :=
  .error (.conversion fault)

/-- The result of a partial conversion, the fault being that of a missing result. -/
def ofOption {α : Type} (fault : ConversionFault) : Option α → Reading α
  | some a => .ok a
  | none => fail fault

/-- A truth value; an integer is true unless it is zero. -/
def bool : Value → Reading Bool
  | .boolean (some b) => .ok b
  | .integer _ (some n) => .ok (n.value != 0)
  | v => fail (noConversion v .bool)

/-- The integer of kind `k` with the value of a decimal. -/
def integerOfDecimal (k : IntKind) (d : Decimal) : Reading (Integer k) :=
  let fault := doesNotFit d.text "Decimal" (NativeType.integer k).name
  if d.isWhole then ofOption fault (Integer.ofInt? k d.truncated)
  else .error (.context "The value is not a integer" (.conversion fault))

/-- An integer of kind `k`. -/
def integer (k : IntKind) : Value → Reading (Integer k)
  | .integer k' (some n) =>
    ofOption (outOfRange n.text k'.letterName (.integer k)) (Integer.ofInt? k n.value)
  | .decimal (some d) _ _ => integerOfDecimal k d
  | v => fail (noConversion v (.integer k))

/-- Whether every integer of the kind is a number of the four byte format. -/
def fitsSingle : IntKind → Bool
  | .int8 | .int16 | .uint8 | .uint16 => true
  | _ => false

/-- Whether every integer of the kind is a number of the eight byte format. -/
def fitsDouble : IntKind → Bool
  | .int64 | .uint64 => false
  | _ => true

/-- A double as a single; a number that would become infinite is out of range. -/
def narrowed (x : Binary .double) : Reading (Binary .single) :=
  let result := x.convert .single
  if x.isFinite && result.isInfinite then fail (outOfRange (x.text .plain) "f64" .float32)
  else .ok result

/-- A four byte floating point number. -/
def float32 : Value → Reading (Binary .single)
  | .float32 (some x) => .ok x
  | .float64 (some x) => narrowed x
  | .decimal (some d) _ _ => .ok (d.toDouble.convert .single)
  | .integer k (some n) =>
    if fitsSingle k then .ok (Binary.ofInt .single n.value)
    else fail (noConversion (.integer k (some n)) .float32)
  | v => fail (noConversion v .float32)

/-- An eight byte floating point number. -/
def float64 : Value → Reading (Binary .double)
  | .float64 (some x) => .ok x
  | .float32 (some x) => .ok (x.convert .double)
  | .decimal (some d) _ _ => .ok d.toDouble
  | .integer k (some n) =>
    if fitsDouble k then .ok (Binary.ofInt .double n.value)
    else fail (noConversion (.integer k (some n)) .float64)
  | v => fail (noConversion v .float64)

/-- A decimal number. -/
def decimal : Value → Reading Decimal
  | .decimal (some d) _ _ => .ok d
  | .integer _ (some n) => .ok (Decimal.ofInteger n)
  | .float32 (some x) => ofOption (doesNotFit (x.text .plain) "f32" "Decimal") (Decimal.ofBinary? x)
  | .float64 (some x) => ofOption (doesNotFit (x.text .plain) "f64" "Decimal") (Decimal.ofBinary? x)
  | v => fail (noConversion v .decimal)

/-- A character, also from a text of length one. -/
def char : Value → Reading Char
  | .char (some c) => .ok c
  | .varchar (some s) =>
    match s.toList with
    | [c] => .ok c
    | _ => fail (notOneChar s)
  | v => fail (noConversion v .char)

/-- A text, also from a character. -/
def text : Value → Reading String
  | .varchar (some s) => .ok s
  | .char (some c) => .ok (String.singleton c)
  | v => fail (noConversion v .text)

/-- The items of a list read one after the other; the first failure counts. -/
def all {α : Type} (item : Value → Reading α) : List Value → Reading (List α)
  | [] => .ok []
  | v :: rest =>
    match item v with
    | .error failure => .error failure
    | .ok a =>
      match all item rest with
      | .error failure => .error failure
      | .ok as => .ok (a :: as)

end Reading

namespace NativeType

/-- The native value that a value stands for, or why there is none. -/
def ofValue : (t : NativeType) → Value → Reading t.Carrier
  | bool, v => Reading.bool v
  | integer k, v => Reading.integer k v
  | float32, v => Reading.float32 v
  | float64, v => Reading.float64 v
  | decimal, v => Reading.decimal v
  | char, v => Reading.char v
  | text, v => Reading.text v
  | sharedText, v => Reading.text v
  | borrowedText, v => Reading.fail (notOwned v)
  | bytes, v =>
    match v with
    | .blob (some b) => .ok b
    | v => Reading.fail (noConversion v bytes)
  | date, v =>
    match v with
    | .date (some d) => .ok d
    | v => Reading.fail (noConversion v date)
  | time, v =>
    match v with
    | .time (some t) => .ok t
    | v => Reading.fail (noConversion v time)
  | timestamp, v =>
    match v with
    | .timestamp (some t) => .ok t
    | v => Reading.fail (noConversion v timestamp)
  | zonedTimestamp, v =>
    match v with
    | .zonedTimestamp (some z) => .ok z
    | v => Reading.fail (noConversion v zonedTimestamp)
  | uuid, v =>
    match v with
    | .uuid (some u) => .ok u
    | v => Reading.fail (noConversion v uuid)
  | value, v => .ok v
  | list item, v =>
    match v with
    | .list (some items) _ => Reading.all item.ofValue items
    | v => Reading.fail (noConversion v (list item))
  | optional item, v =>
    if v.isNull then .ok (none : Option item.Carrier)
    else (item.ofValue v).map (some : item.Carrier → Option item.Carrier)
  | boxed item, v => item.ofValue v
  | shared item, v => item.ofValue v

end NativeType

end SqlTemplate
