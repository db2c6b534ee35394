import SchemaForge.Action
import SchemaForge.Migration.Literal
import SchemaForge.Schema.Field
import SchemaForge.Text.Camel
import SchemaForge.Text.Join

/-!
# Statements

Every field becomes one statement, by a rule for each direction and kind of element: a call of the
schema builder for columns and indexes, a raw statement for functions and triggers. The statements
of a list of fields stand one below the other, and all but the first are indented.
-/

namespace SchemaForge

/-- The indentation of generated code. -/
structure Indentation where
  /-- The number of levels. -/
  level : Nat
  /-- The number of spaces a level. -/
  width : Nat
deriving DecidableEq, Repr

namespace Indentation

/-- The indentation of code at the top of a file. -/
def top : Indentation := ⟨0, 4⟩

/-- The indentation of statements in a closure in a method of a class. -/
def closureBody : Indentation := ⟨3, 4⟩

/-- The spaces in front of a line. -/
def text (i : Indentation) : String := String.ofList (List.replicate (i.level * i.width) ' ')

/-- What stands between two lines. -/
def separator (i : Indentation) : String := "\n" ++ i.text

end Indentation

namespace Statement

/-- The columns of an index: a single one as it is, several or none in brackets. -/
def indexColumns : List String → String
  | [column] => column
  | columns => "[" ++ Text.join ", " columns ++ "]"

/-- The call of one modifier. -/
def modifier (method : String) (value : OptionValue) : String :=
  "->" ++ method ++ "(" ++ value.argument ++ ")"

/-- The call of the schema builder that a field's type names, without modifiers. -/
def builderCall (f : Field) : String :=
  let name := Literal.singleQuoted f.name
  let arguments :=
    if f.type.isIndex then indexColumns f.arguments ++ ", " ++ name
    else if f.arguments.isEmpty then name
    else name ++ ", " ++ Text.join ", " f.arguments
  "$table->" ++ f.type.keyword ++ "(" ++ arguments ++ ")"

/-- The statement that adds a column or index. -/
def addColumn (f : Field) : String :=
  builderCall f ++ Text.join "" (f.options.map fun (method, value) => modifier method value) ++ ";"

/-- The method that drops a field of a type. -/
def dropMethod (t : FieldType) : String :=
  if t.isIndex then "drop" ++ Text.upperCamel t.keyword else "dropColumn"

/-- The statement that drops a column or index. -/
def dropColumn (f : Field) : String :=
  "$table->" ++ dropMethod f.type ++ "(" ++ Literal.singleQuoted f.name ++ ");"

/-- The statement that runs raw SQL. -/
def raw (sql : String) : String := "DB::unprepared(" ++ Literal.doubleQuoted sql ++ ");"

/-- The statement of a field. -/
def render (d : Direction) (k : ElementKind) (f : Field) : String :=
  match d, k with
  | .add, .column => addColumn f
  | .drop, .column => dropColumn f
  | .add, .function | .add, .trigger => raw f.up ++ "\n"
  | .drop, .function | .drop, .trigger => raw f.down

/-- The name of a rule for statements. -/
def ruleName (d : Direction) (k : ElementKind) : String := d.name ++ k.name

/-- The statements of a list of fields, one below the other. -/
def block (fields : List Field) (d : Direction) (k : ElementKind) (i : Indentation) : String :=
  Text.join i.separator (fields.map (render d k))

/-- The statement that drops a whole table. -/
def dropTable (table : String) : String := "Schema::drop('" ++ table ++ "');"

end Statement

end SchemaForge
