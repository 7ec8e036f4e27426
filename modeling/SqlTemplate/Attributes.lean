import SqlTemplate.Failure
import SqlTemplate.Table
import SqlTemplate.Text.Shortened

/-!
# Attributes

Attributes are texts by name. A template refers to one by its name in angle brackets, and rendering
puts the text in place of the reference before the template is parsed.

The scan works on the bytes of the template, since every character with a meaning is a single byte.
It looks for references and for escaped brackets outside comments and quoted literals; whatever is
not terminated reaches to the end. Where it finds one it leaves an edit, and `applyEdits` carries
the edits out on the characters.
-/

namespace SqlTemplate

open Text (escaped shortened splitAtByte)

/-- Texts by name. -/
structure Attributes where
  values : Table String String

namespace Attributes

/-- No attributes. -/
def empty : Attributes := ⟨∅⟩

/-- The text of a name. -/
def get? (a : Attributes) (key : String) : Option String :=
  a.values.get? key

/-- The attributes with a text for a name, in place of any earlier one. -/
def define (a : Attributes) (key value : String) : Attributes :=
  ⟨a.values.insert key value⟩

theorem get?_define (a : Attributes) (key value name : String) :
    (a.define key value).get? name = if name = key then some value else a.get? name :=
  a.values.get?_insert key name value

theorem get?_define_self (a : Attributes) (key value : String) :
    (a.define key value).get? key = some value := by
  rw [get?_define, if_pos rfl]

/-- The attributes without a name. -/
def remove (a : Attributes) (key : String) : Attributes :=
  ⟨a.values.erase key⟩

/-- All attributes between braces. -/
def text (a : Attributes) : String :=
  let entry : String × String → String := fun (key, value) => key ++ ":" ++ value
  "\x7b" ++ ",".intercalate (a.values.entries.map entry) ++ "\x7d"

/-- All attributes with their texts escaped. -/
def diagnostic (a : Attributes) : String :=
  let entry : String × String → String := fun (key, value) => escaped key ++ ": " ++ escaped value
  "Attributes \x7b values: \x7b" ++ ", ".intercalate (a.values.entries.map entry) ++ "\x7d \x7d"

/-! ## The scan -/

/-- The bytes of a text. -/
def bytesOf (cs : List Char) : List UInt8 :=
  cs.flatMap String.utf8EncodeChar

/-- The byte of an ASCII character. -/
def byte (c : Char) : UInt8 := c.toNat.toUInt8

/-- Whether the byte is one of those that attribute names are made of. -/
def isAttributeByte (b : UInt8) : Bool :=
  let c := Char.ofNat b.toNat
  c.isAlphanum || c == '_' || c == '.'

/-- The number of bytes of the reference whose opening bracket stands in front, brackets included;
none when no reference begins there. -/
def referenceLength? (bytes : List UInt8) : Option Nat :=
  let name := bytes.takeWhile isAttributeByte
  if name ≠ [] ∧ bytes[name.length]? = some (byte '>') then some (name.length + 2) else none

/-- The number of bytes through the first `*/`, all of them when there is none. -/
def blockLength : List UInt8 → Nat
  | [] => 0
  | b :: rest =>
    if b = byte '*' ∧ rest.head? = some (byte '/') then 2 else 1 + blockLength rest

/-- The number of bytes through the closing quote, all of them when there is none. A backslash takes
the next byte with it in a single quoted literal. -/
def quoteLength (quote : UInt8) (taken : Bool) : List UInt8 → Nat
  | [] => 0
  | b :: rest =>
    if taken = false ∧ b = quote then 1
    else 1 + quoteLength quote (!taken && b == byte '\\' && quote == byte '\'') rest

/-- What the scan finds at the front of the bytes that are left. -/
inductive Sight where
  /-- Bytes to be copied. -/
  | copied (length : Nat)
  /-- A backslash with an opening bracket. -/
  | bracket
  /-- A reference of so many bytes. -/
  | reference (length : Nat)

/-- The number of bytes that the scan goes on by. -/
def Sight.length : Sight → Nat
  | copied n => n
  | bracket => 2
  | reference n => n

/-- What begins with the byte `b`, `rest` being the bytes after it. -/
def sight (b : UInt8) (rest : List UInt8) : Sight :=
  let next := rest.head?
  if b = byte '-' ∧ next = some (byte '-') then
    .copied (1 + (rest.takeWhile fun c => c != byte '\n' && c != byte '\r').length)
  else if b = byte '/' ∧ next = some (byte '*') then .copied (2 + blockLength (rest.drop 1))
  else if b = byte '\'' ∨ b = byte '"' then .copied (1 + quoteLength b false rest)
  else if b = byte '\\' then
    if next = some (byte '<') then .bracket else .copied (1 + (rest.take 1).length)
  else if b = byte '<' then
    match referenceLength? rest with
    | some n => .reference n
    | none => .copied 1
  else .copied 1

/-- The kinds of changes that rendering makes. -/
inductive EditKind where
  /-- A backslash with an opening bracket becomes the bracket. -/
  | bracket
  /-- A reference becomes the text of the attribute. -/
  | reference
  deriving DecidableEq

/-- A change to the bytes from `start` to `stop` of a template. -/
structure Edit where
  kind : EditKind
  start : Nat
  stop : Nat

/-- The edit that a sight at the byte `start` asks for. -/
def Sight.edit? (start : Nat) : Sight → Option Edit
  | copied _ => none
  | bracket => some ⟨.bracket, start, start + 2⟩
  | reference n => some ⟨.reference, start, start + n⟩

theorem sight_length_pos (b : UInt8) (rest : List UInt8) : 0 < (sight b rest).length := by
  unfold sight
  grind [Sight.length, referenceLength?]

/-- The edits of the bytes that are left, the first of which is the byte `start` of the template. -/
def edits (start : Nat) : List UInt8 → List Edit
  | [] => []
  | b :: rest =>
    let seen := sight b rest
    (seen.edit? start).toList ++
      edits (start + seen.length) ((b :: rest).drop seen.length)
termination_by bytes => bytes.length
decreasing_by
  have := sight_length_pos b rest
  simp only [List.length_drop, List.length_cons]
  omega

/-! ## Rendering -/

/-- The name in a reference. -/
def referredName (token : List Char) : String :=
  String.ofList ((token.drop 1).dropLast)

/-- What an edit puts in place of its token. -/
def replacement (a : Attributes) (kind : EditKind) (token : List Char) :
    Except Failure (List Char) :=
  match kind with
  | .bracket => .ok ['<']
  | .reference =>
    match a.get? (referredName token) with
    | some value => .ok value.toList
    | none => .error (.undefinedAttribute (String.ofList token))

/-- Carries out the edits on the characters `rest`, the first of which is at the byte `start`. -/
def applyEdits (a : Attributes) (start : Nat) (rest : List Char) :
    List Edit → Except Failure (List Char)
  | [] => .ok rest
  | edit :: others =>
    match splitAtByte (edit.start - start) rest with
    | none => .error (.splitCharacter edit.start)
    | some (copied, from_) =>
      match splitAtByte (edit.stop - edit.start) from_ with
      | none => .error (.splitCharacter edit.stop)
      | some (token, after) =>
        match a.replacement edit.kind token with
        | .error failure => .error failure
        | .ok inserted =>
          match applyEdits a edit.stop after others with
          | .error failure => .error failure
          | .ok tail => .ok (copied ++ inserted ++ tail)

/-- A template with the attributes in place of the references to them. -/
def substitute (a : Attributes) (template : String) : Except Failure String :=
  let cs := template.toList
  (applyEdits a 0 cs (edits 0 (bytesOf cs))).map String.ofList

end Attributes

end SqlTemplate
