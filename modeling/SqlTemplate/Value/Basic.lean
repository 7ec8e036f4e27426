import SqlTemplate.Calendar
import SqlTemplate.Number.Decimal
import SqlTemplate.Uuid

/-!
# Dynamically typed SQL values

Every variant but `null` holds an optional content: with a content it is a value, without one it is
the null of its type. The null of a type also serves as the descriptor of the type, for which only
the variant counts, the precision and scale of decimals, and the element type of lists.
-/

namespace SqlTemplate

/-- A SQL value, or the null of a type. -/
inductive Value where
  | null
  | boolean (content : Option Bool)
  | integer (kind : IntKind) (content : Option (Integer kind))
  | float32 (content : Option (Binary .single))
  | float64 (content : Option (Binary .double))
  | decimal (content : Option Decimal) (precision scale : UInt8)
  | char (content : Option Char)
  | varchar (content : Option String)
  | blob (content : Option (List UInt8))
  | date (content : Option Date)
  | time (content : Option Time)
  | timestamp (content : Option Timestamp)
  | zonedTimestamp (content : Option ZonedTimestamp)
  | uuid (content : Option Uuid)
  | list (content : Option (List Value)) (element : Value)

/-- The kind of a value, without content and without the details of its type. -/
inductive Variant where
  | null
  | boolean
  | integer (kind : IntKind)
  | float32
  | float64
  | decimal
  | char
  | varchar
  | blob
  | date
  | time
  | timestamp
  | zonedTimestamp
  | uuid
  | list
  deriving DecidableEq, Repr

namespace Value

instance : Inhabited Value := ⟨null⟩

/-- The variant of a value. -/
def variant : Value → Variant
  | null => .null
  | boolean _ => .boolean
  | integer k _ => .integer k
  | float32 _ => .float32
  | float64 _ => .float64
  | decimal .. => .decimal
  | char _ => .char
  | varchar _ => .varchar
  | blob _ => .blob
  | date _ => .date
  | time _ => .time
  | timestamp _ => .timestamp
  | zonedTimestamp _ => .zonedTimestamp
  | uuid _ => .uuid
  | list .. => .list

/-- Whether the value is `null` or the null of a type. -/
def isNull : Value → Bool
  | null => true
  | boolean c => c.isNone
  | integer _ c => c.isNone
  | float32 c => c.isNone
  | float64 c => c.isNone
  | decimal c .. => c.isNone
  | char c => c.isNone
  | varchar c => c.isNone
  | blob c => c.isNone
  | date c => c.isNone
  | time c => c.isNone
  | timestamp c => c.isNone
  | zonedTimestamp c => c.isNone
  | uuid c => c.isNone
  | list c _ => c.isNone

/-- The null of the type of the value, which describes the type. -/
def asNull : Value → Value
  | null => null
  | boolean _ => boolean none
  | integer k _ => integer k none
  | float32 _ => float32 none
  | float64 _ => float64 none
  | decimal _ p s => decimal none p s
  | char _ => char none
  | varchar _ => varchar none
  | blob _ => blob none
  | date _ => date none
  | time _ => time none
  | timestamp _ => timestamp none
  | zonedTimestamp _ => zonedTimestamp none
  | uuid _ => uuid none
  | list _ element => list none element

/-- Whether two values describe the same type. -/
def sameType : Value → Value → Bool
  | decimal _ p s, decimal _ p' s' => p == p' && s == s'
  | list _ a, list _ b => a.sameType b
  | a, b => a.variant == b.variant

/-- Equality of optional contents under an equality of contents. -/
def eqContent {α : Type} (eq : α → α → Bool) : Option α → Option α → Bool
  | some a, some b => eq a b
  | none, none => true
  | _, _ => false

mutual

/-- Equality of values: of one type and with equal contents. Floating point numbers and decimals are
compared as numbers, timestamps with an offset as instants. -/
def eq : Value → Value → Bool
  | boolean a, boolean b => a == b
  | integer k a, integer k' b => k == k' && a.map (·.value) == b.map (·.value)
  | float32 a, float32 b => eqContent Binary.numericEq a b
  | float64 a, float64 b => eqContent Binary.numericEq a b
  | decimal a p s, decimal b p' s' => eqContent Decimal.numericEq a b && p == p' && s == s'
  | char a, char b => a == b
  | varchar a, varchar b => a == b
  | blob a, blob b => a == b
  | date a, date b => a == b
  | time a, time b => a == b
  | timestamp a, timestamp b => a == b
  | zonedTimestamp a, zonedTimestamp b => a.map (·.instant) == b.map (·.instant)
  | uuid a, uuid b => a == b
  | list (some as) a, list (some bs) b => eqAll as bs && a.sameType b
  | list none a, list none b => a.sameType b
  | list .., list .. => false
  | a, b => a.variant == b.variant

/-- Equality of lists of values, item by item. -/
def eqAll : List Value → List Value → Bool
  | [], [] => true
  | a :: as, b :: bs => a.eq b && eqAll as bs
  | _, _ => false

end

instance : BEq Value := ⟨eq⟩

end Value

end SqlTemplate
