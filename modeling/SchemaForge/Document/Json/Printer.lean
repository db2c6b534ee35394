import SchemaForge.Decimal.Real
import SchemaForge.Document.Json.Text

/-!
# Writing JSON

A value to be written has objects as lists of members in order. `render` writes it on one line,
`renderLines` with one member or element a line and two spaces of indentation a level. A real that
is not finite is written as null.
-/

namespace SchemaForge.Document.Json

/-- A value to be written. -/
inductive Value where
  /-- A truth value. -/
  | flag (on : Bool)
  /-- A whole number. -/
  | integer (value : Int)
  /-- A real number. -/
  | real (value : Float)
  /-- A text. -/
  | text (value : String)
  /-- A list of values. -/
  | list (items : List Value)
  /-- An object with its members in order. -/
  | object (members : List (String × Value))

/-- The text of a real number, or null for one that is not finite. -/
def realChars (x : Float) : List Char :=
  if x.isFinite then (Decimal.realText .json x).toList else "null".toList

/-- The text of a truth value. -/
def flagChars (on : Bool) : List Char := if on then "true".toList else "false".toList

/-- Texts with a separator between neighbours. -/
def joined (separator : List Char) : List (List Char) → List Char
  | [] => []
  | [a] => a
  | a :: b :: rest => a ++ separator ++ joined separator (b :: rest)

/-- The line break before something that is indented by so many levels. -/
def lineBreak (level : Nat) : List Char := '\n' :: List.replicate (2 * level) ' '

mutual

/-- A value on one line. -/
def Value.render : Value → List Char
  | .flag on => flagChars on
  | .integer value => Decimal.intDigits value
  | .real value => realChars value
  | .text value => renderText value
  | .list items => '[' :: joined [','] (renderItems items) ++ [']']
  | .object members => '{' :: joined [','] (renderMembers members) ++ ['}']

/-- The elements of a list, each on one line. -/
def renderItems : List Value → List (List Char)
  | [] => []
  | v :: rest => v.render :: renderItems rest

/-- The members of an object, each on one line. -/
def renderMembers : List (String × Value) → List (List Char)
  | [] => []
  | (key, v) :: rest => (renderText key ++ ':' :: v.render) :: renderMembers rest

end

/-- The parts of a container between its brackets, one a line; nothing if there are no parts. -/
def block (level : Nat) (parts : List (List Char)) : List Char :=
  if parts.isEmpty then []
  else lineBreak (level + 1) ++ joined (',' :: lineBreak (level + 1)) parts ++ lineBreak level

mutual

/-- A value over several lines, where the line it starts on is indented by so many levels. -/
def Value.renderLines (level : Nat) : Value → List Char
  | .flag on => flagChars on
  | .integer value => Decimal.intDigits value
  | .real value => realChars value
  | .text value => renderText value
  | .list items => '[' :: block level (itemLines (level + 1) items) ++ [']']
  | .object members => '{' :: block level (memberLines (level + 1) members) ++ ['}']

/-- The elements of a list, each over several lines. -/
def itemLines (level : Nat) : List Value → List (List Char)
  | [] => []
  | v :: rest => v.renderLines level :: itemLines level rest

/-- The members of an object, each over several lines. -/
def memberLines (level : Nat) : List (String × Value) → List (List Char)
  | [] => []
  | (key, v) :: rest =>
    (renderText key ++ ':' :: ' ' :: v.renderLines level) :: memberLines level rest

end

/-- The text of a value on one line. -/
def Value.compact (v : Value) : String := String.ofList v.render

/-- The text of a value over several lines. -/
def Value.pretty (v : Value) : String := String.ofList (v.renderLines 0)

end SchemaForge.Document.Json
