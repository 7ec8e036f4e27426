import SqlTemplate.Value.Basic

/-!
# Statically typed values

The types of the values that an application hands in and reads back: scalars, and the lists,
optional values and pointers built over them. `Carrier` is the Lean type of the values of a native
type; pointers and the different ownerships of text carry what they point to.
-/

namespace SqlTemplate

/-- The types between which and `Value` conversions exist. -/
inductive NativeType where
  | bool
  | integer (kind : IntKind)
  | float32
  | float64
  | decimal
  | char
  /-- Text that its holder owns. -/
  | text
  /-- Text that is owned or borrowed. -/
  | sharedText
  /-- Text that is borrowed. -/
  | borrowedText
  | bytes
  | date
  | time
  | timestamp
  | zonedTimestamp
  | uuid
  /-- A value that is dynamically typed already. -/
  | value
  | list (item : NativeType)
  | optional (item : NativeType)
  /-- A pointer with one holder. -/
  | boxed (item : NativeType)
  /-- A pointer with many holders. -/
  | shared (item : NativeType)
  deriving DecidableEq

namespace NativeType

/-- The values of a native type. -/
def Carrier : NativeType → Type
  | bool => Bool
  | integer k => Integer k
  | float32 => Binary .single
  | float64 => Binary .double
  | decimal => Decimal
  | char => Char
  | text => String
  | sharedText => String
  | borrowedText => String
  | bytes => List UInt8
  | date => Date
  | time => Time
  | timestamp => Timestamp
  | zonedTimestamp => ZonedTimestamp
  | uuid => Uuid
  | value => Value
  | list item => List item.Carrier
  | optional item => Option item.Carrier
  | boxed item => item.Carrier
  | shared item => item.Carrier

/-- The full name of the type, as failures show it. -/
def name : NativeType → String
  | bool => "bool"
  | integer k => k.letterName
  | float32 => "f32"
  | float64 => "f64"
  | decimal => "rust_decimal::decimal::Decimal"
  | char => "char"
  | text => "alloc::string::String"
  | sharedText => "alloc::borrow::Cow<str>"
  | borrowedText => "&str"
  | bytes => "alloc::boxed::Box<[u8]>"
  | date => "time::date::Date"
  | time => "time::time::Time"
  | timestamp => "time::plain_date_time::PlainDateTime"
  | zonedTimestamp => "time::offset_date_time::OffsetDateTime"
  | uuid => "uuid::Uuid"
  | value => "stencil_core::value::Value"
  | list item => "alloc::vec::Vec<" ++ item.name ++ ">"
  | optional item => "core::option::Option<" ++ item.name ++ ">"
  | boxed item => "alloc::boxed::Box<" ++ item.name ++ ">"
  | shared item => "alloc::sync::Arc<" ++ item.name ++ ">"

/-- The null that describes the SQL type of a native type. -/
def descriptor : NativeType → Value
  | bool => .boolean none
  | integer k => .integer k none
  | float32 => .float32 none
  | float64 => .float64 none
  | decimal => .decimal none 0 0
  | char => .char none
  | text | sharedText | borrowedText => .varchar none
  | bytes => .blob none
  | date => .date none
  | time => .time none
  | timestamp => .timestamp none
  | zonedTimestamp => .zonedTimestamp none
  | uuid => .uuid none
  | value => .null
  | list item => .list none item.descriptor
  | optional item => item.descriptor
  | boxed item => item.descriptor
  | shared item => item.descriptor

/-- The value for a statically typed one, in the variant of its type. -/
def toValue : (t : NativeType) → t.Carrier → Value
  | bool, x => .boolean (some x)
  | integer k, x => .integer k (some x)
  | float32, x => .float32 (some x)
  | float64, x => .float64 (some x)
  | decimal, x => .decimal (some x) 0 0
  | char, x => .char (some x)
  | text, x => .varchar (some x)
  | sharedText, x => .varchar (some x)
  | borrowedText, x => .varchar (some x)
  | bytes, x => .blob (some x)
  | date, x => .date (some x)
  | time, x => .time (some x)
  | timestamp, x => .timestamp (some x)
  | zonedTimestamp, x => .zonedTimestamp (some x)
  | uuid, x => .uuid (some x)
  | value, x => x
  | list item, xs => .list (some (List.map item.toValue xs)) item.descriptor
  | optional item, x =>
    match (x : Option item.Carrier) with
    | some y => item.toValue y
    | none => item.descriptor
  | boxed item, x => item.toValue x
  | shared item, x => item.toValue x

end NativeType

end SqlTemplate
