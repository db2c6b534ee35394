import SchemaForge.Decimal.Real

/-!
# Fields

A field describes one column, index, function or trigger of a schema: a name, a type, literal
arguments, and modifiers that are chained to its call. Modifiers keep the order in which their
names first appear.
-/

namespace SchemaForge

/-- The type of a field. -/
inductive FieldType where
  /-- A plain index. -/
  | index
  /-- A unique index. -/
  | unique
  /-- A primary key. -/
  | primary
  /-- A foreign key. -/
  | foreign
  /-- A stored function. -/
  | function
  /-- A trigger. -/
  | trigger
  /-- A column of the type with this keyword. -/
  | column (keyword : String)
deriving DecidableEq, Repr

namespace FieldType

/-- The keyword of a type, which is also the method that adds such a field. -/
def keyword : FieldType → String
  | index => "index"
  | unique => "unique"
  | primary => "primary"
  | foreign => "foreign"
  | function => "function"
  | trigger => "trigger"
  | column keyword => keyword

/-- The types that are not column types. -/
def reserved : List FieldType := [index, unique, primary, foreign, function, trigger]

/-- The type with a given keyword: every keyword that is not reserved is a column type. -/
def ofKeyword (word : String) : FieldType :=
  (reserved.find? (·.keyword == word)).getD (column word)

/-- Whether the type is one of the four kinds of index. -/
def isIndex : FieldType → Bool
  | index | unique | primary | foreign => true
  | _ => false

/-- Whether the type is a function or a trigger, which are made by raw statements. -/
def isRoutine : FieldType → Bool
  | function | trigger => true
  | _ => false

end FieldType

/-- The value of a modifier. -/
inductive OptionValue where
  /-- A switch; a switch that is on is called without arguments. -/
  | flag (on : Bool)
  /-- A whole number. -/
  | integer (value : Int64)
  /-- A real number. -/
  | real (value : Float)
  /-- A literal that is put into the call as it is. -/
  | literal (text : String)

/-- The text between the parentheses of a modifier's call. -/
def OptionValue.argument : OptionValue → String
  | flag true => ""
  | flag false => "false"
  | integer value => Decimal.intText value.toInt
  | real value => Decimal.realText .code value
  | literal text => text

/-- Whether two values are equal, where reals are compared as numbers. -/
def OptionValue.same : OptionValue → OptionValue → Bool
  | flag a, flag b => a == b
  | integer a, integer b => a == b
  | real a, real b => a == b
  | literal a, literal b => a == b
  | _, _ => false

/-- Modifiers by name, each name at most once. -/
abbrev Options := List (String × OptionValue)

/-- Gives a modifier its value: one that is there keeps its place, a new one comes last. -/
def Options.insert (options : Options) (method : String) (value : OptionValue) : Options :=
  match options with
  | [] => [(method, value)]
  | (m, v) :: rest =>
    if m = method then (m, value) :: rest else (m, v) :: Options.insert rest method value

/-- Whether two sets of modifiers are equal, in whatever order. -/
def Options.same (a b : Options) : Bool :=
  a.length == b.length && a.all fun (method, value) =>
    match b.lookup method with
    | some other => value.same other
    | none => false

/-- One entry of a schema's list of fields. -/
structure Field where
  /-- The name of the column, index or routine. -/
  name : String
  /-- The type. -/
  type : FieldType
  /-- Literals that are put into the call as they are. -/
  arguments : List String := []
  /-- The modifiers, in order. -/
  options : Options := []
  /-- The statement that makes a function or trigger. -/
  sqlUp : Option String := none
  /-- The statement that drops a function or trigger. -/
  sqlDown : Option String := none

namespace Field

/-- A stored function with its two statements. -/
def storedFunction (name sqlUp sqlDown : String) : Field :=
  { name, type := .function, sqlUp := some sqlUp, sqlDown := some sqlDown }

/-- A trigger with its two statements. -/
def storedTrigger (name sqlUp sqlDown : String) : Field :=
  { name, type := .trigger, sqlUp := some sqlUp, sqlDown := some sqlDown }

/-- The field with one more argument. -/
def withArgument (f : Field) (argument : String) : Field :=
  { f with arguments := f.arguments ++ [argument] }

/-- The field with other arguments. -/
def withArguments (f : Field) (arguments : List String) : Field := { f with arguments }

/-- The field with a modifier. -/
def withOption (f : Field) (method : String) (value : OptionValue) : Field :=
  { f with options := f.options.insert method value }

/-- The field with a modifier that is called without arguments. -/
def withFlag (f : Field) (method : String) : Field := f.withOption method (.flag true)

/-- The field with its two statements. -/
def withSql (f : Field) (sqlUp sqlDown : String) : Field :=
  { f with sqlUp := some sqlUp, sqlDown := some sqlDown }

/-- The statement that makes the routine, empty if there is none. -/
def up (f : Field) : String := f.sqlUp.getD ""

/-- The statement that drops the routine, empty if there is none. -/
def down (f : Field) : String := f.sqlDown.getD ""

/-- Whether two fields are equal, with modifiers in whatever order. -/
def same (a b : Field) : Bool :=
  a.name == b.name && a.type == b.type && a.arguments == b.arguments &&
    a.options.same b.options && a.sqlUp == b.sqlUp && a.sqlDown == b.sqlDown

end Field

end SchemaForge
