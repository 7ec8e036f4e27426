/-!
# Quoted SQL text

A text literal stands between single quotes, and a single quote inside it is written twice.
-/

namespace SqlTemplate.Text

/-- The characters of a text with every single quote doubled. -/
def doubledQuotes : List Char → List Char
  | [] => []
  | c :: rest =>
    if c = '\'' then '\'' :: '\'' :: doubledQuotes rest else c :: doubledQuotes rest

/-- A text as a SQL literal. -/
def quoted (s : String) : String :=
  String.ofList ('\'' :: doubledQuotes s.toList ++ ['\''])

end SqlTemplate.Text
