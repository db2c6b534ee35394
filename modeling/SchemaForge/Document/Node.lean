/-!
# Documents as they are met

A node is a value of a JSON or TOML document, up to the place where the text of the document breaks
off. Lists and tables end in `close` if the text closes them and in `broken` if it does not, so a
reader that takes nodes in the order of the text meets the fault exactly where the text has it. A
value can also be well formed and yet have no meaning, such as a number that is too great; such a
value may be skipped but not read.
-/

namespace SchemaForge.Document

mutual

/-- A value of a document. -/
inductive Node where
  /-- The null value. -/
  | null
  /-- A truth value. -/
  | flag (on : Bool)
  /-- A whole number. -/
  | integer (value : Int)
  /-- A real number. -/
  | real (value : Float)
  /-- A text. -/
  | text (value : String)
  /-- A list of values. -/
  | list (items : Items)
  /-- A table of members. -/
  | table (members : Members)
  /-- A value that is well formed and has no meaning. -/
  | unreadable
  /-- The text breaks off inside or in front of the value. -/
  | broken

/-- The elements of a list. -/
inductive Items where
  /-- The list ends. -/
  | close
  /-- The text breaks off. -/
  | broken
  /-- One more element. -/
  | item (value : Node) (rest : Items)

/-- The members of a table. -/
inductive Members where
  /-- The table ends. -/
  | close
  /-- The text breaks off. -/
  | broken
  /-- One more member; its key is a text, unless it has no meaning or the text breaks off in it. -/
  | member (key value : Node) (rest : Members)

end

mutual

/-- Whether the text of a value is well formed to its end. -/
def Node.isWhole : Node → Bool
  | .broken => false
  | .list items => items.isWhole
  | .table members => members.isWhole
  | _ => true

/-- Whether the text of a list is well formed to its end. -/
def Items.isWhole : Items → Bool
  | .close => true
  | .broken => false
  | .item value rest => value.isWhole && rest.isWhole

/-- Whether the text of a table is well formed to its end. -/
def Members.isWhole : Members → Bool
  | .close => true
  | .broken => false
  | .member key value rest => key.isWhole && value.isWhole && rest.isWhole

end

mutual

/-- Whether a value and all values inside it have a meaning. -/
def Node.isReadable : Node → Bool
  | .broken => false
  | .unreadable => false
  | .list items => items.isReadable
  | .table members => members.isReadable
  | _ => true

/-- Whether all elements of a list have a meaning. -/
def Items.isReadable : Items → Bool
  | .close => true
  | .broken => false
  | .item value rest => value.isReadable && rest.isReadable

/-- Whether all members of a table have a meaning. -/
def Members.isReadable : Members → Bool
  | .close => true
  | .broken => false
  | .member key value rest => key.isReadable && value.isReadable && rest.isReadable

end

/-- The list with the given elements. -/
def Items.ofList : List Node → Items
  | [] => .close
  | n :: rest => .item n (ofList rest)

/-- The table with the given members. -/
def Members.ofList : List (String × Node) → Members
  | [] => .close
  | (key, value) :: rest => .member (.text key) value (ofList rest)

end SchemaForge.Document
