/-!
# Items with a separator between them

Two rules are in use. `String.intercalate` puts the separator between any two items. `joined` puts
it only after an item that has text, so an empty item takes the separator after it away.
-/

namespace SqlTemplate.Text

/-- The items in order; `pending` says that a separator is due before the next of them. -/
def joinedFrom (separator : String) (pending : Bool) : List String → String
  | [] => ""
  | item :: rest =>
    (if pending then separator else "") ++ item ++
      joinedFrom separator (item.utf8ByteSize != 0) rest

/-- The items in order, the separator standing between an item with text and the one after it. -/
def joined (separator : String) (items : List String) : String :=
  joinedFrom separator false items

end SqlTemplate.Text
