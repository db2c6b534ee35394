import SchemaForge.Document.Json.Printer
import SchemaForge.Schema.Set

/-!
# Writing schemas

How fields, schemas and sets of schemas are written as JSON values. Modifiers, statements and the
mark of a dropped schema are left out where there are none.
-/

namespace SchemaForge

open Document

/-- The JSON value of a modifier's value. -/
def OptionValue.toJson : OptionValue → Json.Value
  | flag on => .flag on
  | integer value => .integer value.toInt
  | real value => .real value
  | literal text => .text text

/-- A member that is written only if it has a value. -/
def optionalMember (name : String) (value : Option String) : List (String × Json.Value) :=
  value.toList.map fun text => (name, .text text)

/-- The JSON value of a field. -/
def Field.toJson (f : Field) : Json.Value :=
  .object (
    [("name", .text f.name), ("type", .text f.type.keyword),
      ("arguments", .list (f.arguments.map .text))] ++
    (if f.options.isEmpty then []
      else [("options", .object (f.options.map fun (method, value) => (method, value.toJson)))]) ++
    optionalMember "sql_up" f.sqlUp ++ optionalMember "sql_down" f.sqlDown)

/-- The JSON value of a schema. -/
def Schema.toJson (s : Schema) : Json.Value :=
  .object (
    [("name", .text s.name), ("fields", .list (s.fields.map Field.toJson))] ++
    (if s.drop then [("drop", .flag true)] else []))

/-- The JSON value of a set of schemas. -/
def SchemaSet.toJson (s : SchemaSet) : Json.Value :=
  .object (Action.all.map fun a => (a.keyword, .list ((s.schemas a).map Schema.toJson)))

end SchemaForge
