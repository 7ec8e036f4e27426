import SqlTemplate.Text.Words

/-!
# Case styles

The conventions for names of several words, by which the fields of a record can be renamed.
-/

namespace SqlTemplate

/-- How the words of a name are written together. -/
inductive CaseStyle where
  | flat
  | upperFlat
  | camel
  | pascal
  | snake
  | upperSnake
  | kebab
  deriving DecidableEq, Repr

namespace CaseStyle

/-- Each style with its name, which is written in the style itself. -/
def named : List (String × CaseStyle) :=
  [("lowercase", flat), ("UPPERCASE", upperFlat), ("camelCase", camel), ("PascalCase", pascal),
    ("snake_case", snake), ("SCREAMING_SNAKE_CASE", upperSnake), ("kebab-case", kebab)]

/-- The style with a name. -/
def ofName? (name : String) : Option CaseStyle :=
  named.lookup name

/-- The words of a name in the cases that the style gives them. -/
def styledWords (style : CaseStyle) (words : List (List Text.Cluster)) : List (List Char) :=
  match style with
  | flat | snake | kebab => words.map Text.lowerWord
  | upperFlat | upperSnake => words.map Text.upperWord
  | pascal => words.map Text.capitalWord
  | camel =>
    match words with
    | [] => []
    | first :: rest => Text.lowerWord first :: rest.map Text.capitalWord

/-- What the style puts between words. -/
def separator : CaseStyle → String
  | snake | upperSnake => "_"
  | kebab => "-"
  | _ => ""

/-- A name in the style. -/
def apply (style : CaseStyle) (name : String) : String :=
  style.separator.intercalate ((style.styledWords (Text.words name)).map String.ofList)

end CaseStyle

end SqlTemplate
