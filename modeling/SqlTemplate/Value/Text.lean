import SqlTemplate.Number.BinaryText
import SqlTemplate.Text.Digits
import SqlTemplate.Text.Escaped
import SqlTemplate.Text.Quoted
import SqlTemplate.Value.Basic

/-!
# Texts of values

A value has two texts: `text`, the SQL literal by which messages and descriptions show it, and
`diagnostic`, which shows variant and content as they are. `typeName` is the SQL name of a type.
-/

namespace SqlTemplate

open Text (escaped escapedLetter paddedDigits quoted bracketed)

namespace Value

/-- The SQL name of the integer type of a kind. -/
def integerTypeName : IntKind → String
  | .int8 => "TINYINT"
  | .int16 => "SMALLINT"
  | .int32 => "INTEGER"
  | .int64 => "BIGINT"
  | .uint8 => "UTINYINT"
  | .uint16 => "USMALLINT"
  | .uint32 => "UINTEGER"
  | .uint64 => "UBIGINT"

/-- The SQL name of the type that the value describes. -/
def typeName : Value → String
  | null => "NULL"
  | boolean _ => "BOOLEAN"
  | integer k _ => integerTypeName k
  | float32 _ => "FLOAT"
  | float64 _ => "DOUBLE"
  | decimal _ p s =>
    if p = 0 ∧ s = 0 then "DECIMAL"
    else "DECIMAL(" ++ toString p.toNat ++ "," ++ toString s.toNat ++ ")"
  | char _ => "CHAR(1)"
  | varchar _ => "VARCHAR"
  | blob _ => "BLOB"
  | date _ => "DATE"
  | time _ => "TIME"
  | timestamp _ => "TIMESTAMP"
  | zonedTimestamp _ => "TIMESTAMP WITH TIME ZONE"
  | uuid _ => "UUID"
  | list _ element => element.typeName ++ "[]"

/-! ## Literals -/

/-- Two digits in base sixteen for each byte, in upper case. -/
def byteDigits (bytes : List UInt8) : List Char :=
  bytes.flatMap fun b => (paddedDigits 16 2 b.toNat).map Char.toUpper

/-- A text between single quotes that has none inside. -/
def plainQuoted (s : String) : String :=
  "'" ++ s ++ "'"

/-- The literal of a content, `NULL` where there is none. -/
def literal {α : Type} (render : α → String) : Option α → String
  | some a => render a
  | none => "NULL"

mutual

/-- The value as a SQL literal. -/
def text : Value → String
  | null => "NULL"
  | boolean c => literal (fun b => if b then "true" else "false") c
  | integer _ c => literal Integer.text c
  | float32 c => literal (Binary.text .plain) c
  | float64 c => literal (Binary.text .plain) c
  | decimal c .. => literal Decimal.text c
  | char c => literal (fun a => quoted (String.singleton a)) c
  | varchar c => literal quoted c
  | blob c => literal (fun bytes => plainQuoted ("\\x" ++ String.ofList (byteDigits bytes))) c
  | date c => literal (fun d => plainQuoted d.text) c
  | time c => literal (fun t => plainQuoted t.text) c
  | timestamp c => literal (fun t => plainQuoted (t.date.text ++ "T" ++ t.time.text)) c
  | zonedTimestamp c =>
    literal (fun z =>
      plainQuoted (z.wall.date.text ++ "T" ++ z.wall.time.text ++ z.offset.text)) c
  | uuid c => literal (fun u => plainQuoted u.text) c
  | list none _ => "NULL"
  | list (some items) _ => "[" ++ ",".intercalate (texts items) ++ "]"

/-- The literals of the items of a list. -/
def texts : List Value → List String
  | [] => []
  | item :: rest => item.text :: texts rest

end

instance : ToString Value := ⟨text⟩

/-! ## Diagnostic texts -/

/-- The name of a variant applied to its parts. -/
def applied (name : String) (parts : List String) : String :=
  name ++ "(" ++ ", ".intercalate parts ++ ")"

/-- An optional content. -/
def optional {α : Type} (render : α → String) : Option α → String
  | some a => applied "Some" [render a]
  | none => "None"

/-- The name of the variant of an integer kind. -/
def integerVariantName (k : IntKind) : String :=
  (if k.signed then "Int" else "UInt") ++ toString k.bits

/-- Day and time of day, a blank between them. -/
def spacedTimestamp (t : Timestamp) : String :=
  t.date.text ++ " " ++ t.time.text

mutual

/-- The variant and the content of a value. -/
def diagnostic : Value → String
  | null => "Null"
  | boolean c => applied "Boolean" [optional (fun b => if b then "true" else "false") c]
  | integer k c => applied (integerVariantName k) [optional Integer.text c]
  | float32 c => applied "Float32" [optional (Binary.text .diagnostic) c]
  | float64 c => applied "Float64" [optional (Binary.text .diagnostic) c]
  | decimal c p s =>
    applied "Decimal" [optional Decimal.text c, toString p.toNat, toString s.toNat]
  | char c => applied "Char" [optional escapedLetter c]
  | varchar c => applied "Varchar" [optional escaped c]
  | blob c =>
    applied "Blob" [optional (fun bytes => bracketed (bytes.map fun b => toString b.toNat)) c]
  | date c => applied "Date" [optional Date.text c]
  | time c => applied "Time" [optional Time.text c]
  | timestamp c => applied "Timestamp" [optional spacedTimestamp c]
  | zonedTimestamp c =>
    applied "TimestampWithTimezone"
      [optional (fun z => spacedTimestamp z.wall ++ " " ++ z.offset.text) c]
  | uuid c => applied "Uuid" [optional Uuid.text c]
  | list none element => applied "List" ["None", element.diagnostic]
  | list (some items) element =>
    applied "List" [applied "Some" [bracketed (diagnostics items)], element.diagnostic]

/-- The diagnostic texts of the items of a list. -/
def diagnostics : List Value → List String
  | [] => []
  | item :: rest => item.diagnostic :: diagnostics rest

end

end Value

end SqlTemplate
