import SqlTemplate.Record.CaseStyle

/-!
# Declarations of records

A record whose fields are to be arguments is declared with attributes: one on the record renames all
fields, those on a field give it a name, leave it out, or make it a finder of its own. Attributes
with another path belong to others and are passed over. The first fault ends the reading.
-/

namespace SqlTemplate

/-- A literal in an attribute. -/
inductive AttributeLiteral where
  | text (value : String)
  | number (value : Int)
  | truth (value : Bool)
  deriving DecidableEq

/-- A word in an attribute, or a word with a value. -/
structure AttributeItem where
  key : String
  value : Option AttributeLiteral
  deriving DecidableEq

/-- An attribute; without items it is a bare path. -/
structure DeclaredAttribute where
  path : String
  items : Option (List AttributeItem)
  deriving DecidableEq

/-- A field and its attributes. -/
structure DeclaredField where
  identifier : String
  attributes : List DeclaredAttribute
  deriving DecidableEq

/-- A record, its attributes and its fields. -/
structure DeclaredRecord where
  attributes : List DeclaredAttribute
  fields : List DeclaredField
  deriving DecidableEq

/-- What the declaration says about one field. -/
structure FieldRule where
  identifier : String
  /-- The parameter that the field answers to. -/
  name : String
  skipped : Bool
  /-- Whether the names below the field are answered by the field itself. -/
  nested : Bool
  deriving DecidableEq

/-- What is wrong with a declaration. -/
inductive DeclarationFault where
  /-- A bare attribute on the record. -/
  | bareOnRecord
  /-- A style that is not a text. -/
  | styleNotText
  /-- A style that is not known. -/
  | unknownStyle (name : String)
  /-- A word that has no meaning on a record; a path of several words has no name. -/
  | unknownOnRecord (key : String)
  /-- A bare attribute on a field. -/
  | bareOnField
  /-- A name that is not a text. -/
  | nameNotText
  /-- A word that takes no value. -/
  | valueNotAllowed (key : String)
  /-- A word that has no meaning on a field. -/
  | unknownOnField (key : String)
  /-- A field without a name. -/
  | emptyName (identifier : String)
  deriving DecidableEq

namespace DeclarationFault

/-- The wording of the fault. -/
def message : DeclarationFault → String
  | bareOnRecord =>
    "Error while parsing `stencil`, use it like: `#[stencil(rename_all = \"camelCase\")]`"
  | styleNotText =>
    "Error while parsing `rename_all`, use it like: `#[stencil(rename_all = \"camelCase\")]`"
  | unknownStyle name =>
    "Unsupported `rename_all = \"" ++ name ++ "\"`, expected one of: " ++
      ", ".intercalate (CaseStyle.named.map Prod.fst)
  | unknownOnRecord key =>
    "Unknown attribute `" ++ key ++ "` on a struct deriving NamedArguments"
  | bareOnField =>
    "Error while parsing `stencil`, use it like: `#[stencil(attribute = value, ...)]`"
  | nameNotText =>
    "Error while parsing `name`, use it like: `#[stencil(name = \"user_id\")]`"
  | valueNotAllowed key =>
    "Error while parsing `" ++ key ++ "`, use it like: `#[stencil(" ++ key ++ ")]`"
  | unknownOnField key => "Unknown attribute `" ++ key ++ "` inside stencil macro"
  | emptyName identifier => "Field `" ++ identifier ++ "` maps to an empty parameter name"

end DeclarationFault

namespace DeclaredAttribute

/-- The path of the attributes that are read here. -/
def ownPath : String := "stencil"

/-- An attribute that is read here, with its items. -/
def own (items : List AttributeItem) : DeclaredAttribute :=
  ⟨ownPath, some items⟩

/-- The words of a key, which is a path. -/
def segments (key : String) : List String :=
  key.splitOn "::"

/-- The key, if it is a single word. -/
def singleWord (key : String) : String :=
  if (segments key).length = 1 then key else ""

/-- The key with blanks around the marks between its words. -/
def spacedKey (key : String) : String :=
  match segments key with
  | "" :: rest => ":: " ++ " :: ".intercalate rest
  | words => " :: ".intercalate words

/-- Reads the items of all own attributes one after the other. -/
def readItems {σ : Type} (bare : DeclarationFault)
    (item : σ → AttributeItem → Except DeclarationFault σ) (start : σ)
    (attributes : List DeclaredAttribute) : Except DeclarationFault σ :=
  (attributes.filter fun a => a.path == ownPath).foldlM
    (fun state own =>
      match own.items with
      | none => .error bare
      | some items => items.foldlM item state)
    start

end DeclaredAttribute

open DeclaredAttribute (readItems singleWord spacedKey)

namespace DeclaredRecord

/-- The style after one more item of an attribute on the record. -/
def readStyle (_ : Option CaseStyle) (item : AttributeItem) :
    Except DeclarationFault (Option CaseStyle) :=
  if item.key = "rename_all" then
    match item.value with
    | some (.text name) =>
      match CaseStyle.ofName? name with
      | some style => .ok (some style)
      | none => .error (.unknownStyle name)
    | _ => .error .styleNotText
  else
    .error (.unknownOnRecord (singleWord item.key))

/-- The style in which the fields are renamed, the last one given. -/
def style (r : DeclaredRecord) : Except DeclarationFault (Option CaseStyle) :=
  readItems .bareOnRecord readStyle none r.attributes

end DeclaredRecord

namespace DeclaredField

/-- The name of a field without an attribute that names it: without one underscore in front, in the
style of the record. -/
def defaultName (style : Option CaseStyle) (identifier : String) : String :=
  let bare :=
    match identifier.toList with
    | '_' :: rest => String.ofList rest
    | _ => identifier
  match style with
  | some style => style.apply bare
  | none => bare

/-- The rule after one more item of an attribute on the field. -/
def readItem (rule : FieldRule) (item : AttributeItem) : Except DeclarationFault FieldRule :=
  match item.key with
  | "name" =>
    match item.value with
    | some (.text name) => .ok { rule with name }
    | _ => .error .nameNotText
  | "skip" =>
    if item.value.isNone then .ok { rule with skipped := true }
    else .error (.valueNotAllowed "skip")
  | "nested" =>
    if item.value.isNone then .ok { rule with nested := true }
    else .error (.valueNotAllowed "nested")
  | key => .error (.unknownOnField (spacedKey key))

/-- The rule for a field of a record with a style. -/
def rule (style : Option CaseStyle) (field : DeclaredField) :
    Except DeclarationFault FieldRule := do
  let start : FieldRule :=
    ⟨field.identifier, defaultName style field.identifier, false, false⟩
  let rule ← readItems .bareOnField readItem start field.attributes
  if rule.name = "" then throw (.emptyName field.identifier)
  pure rule

end DeclaredField

namespace DeclaredRecord

/-- The rules for all fields in order. -/
def rules (r : DeclaredRecord) : Except DeclarationFault (List FieldRule) := do
  let style ← r.style
  r.fields.mapM (DeclaredField.rule style)

end DeclaredRecord

end SqlTemplate
