import SchemaForge.Action
import SchemaForge.Calendar.Moment

/-!
# Names of migrations and seeders

The class of a migration is named for its action and table; its file has a stamp in front, which
orders the migrations, and is recognized by what follows the stamp. Models and seeders are named for
the singular of their table.
-/

namespace SchemaForge

/-- The extension of generated files. -/
def codeExtension : String := "php"

namespace Migration

/-- The name of a migration's class. -/
def className (a : Action) (table : String) : String :=
  Text.upperCamel (a.keyword ++ "_" ++ table)

/-- What follows the stamp in the name of a migration's file. -/
def suffix (a : Action) (table : String) : String :=
  a.keyword ++ "_" ++ table ++ "." ++ codeExtension

/-- The name of a migration's file. -/
def fileName (m : Moment) (a : Action) (table : String) : String :=
  String.ofList m.stamp ++ "_" ++ suffix a table

/-- One character of a stamp. -/
inductive StampMark where
  /-- A decimal digit. -/
  | digit
  /-- An underscore. -/
  | underscore
deriving DecidableEq, Repr

/-- The characters of a stamp of a year with four digits, and of the underscore after it. -/
def stampMarks : List StampMark :=
  [.digit, .digit, .digit, .digit, .underscore, .digit, .digit, .underscore,
    .digit, .digit, .underscore, .digit, .digit, .digit, .digit, .digit, .digit, .underscore]

/-- What follows characters of the given kinds at the start of a text. -/
def dropMarks? : List StampMark → List Char → Option (List Char)
  | [], text => some text
  | _ :: _, [] => none
  | .digit :: marks, c :: rest => if c.isDigit then dropMarks? marks rest else none
  | .underscore :: marks, c :: rest => if c = '_' then dropMarks? marks rest else none

/-- What follows the stamp of a file's name, if the name starts with one. -/
def stripStamp? (name : String) : Option String :=
  (dropMarks? stampMarks name.toList).map String.ofList

/-- Whether a file's name is that of a migration of an action and table, whatever its stamp. -/
def isFor (name : String) (a : Action) (table : String) : Bool :=
  stripStamp? name == some (suffix a table)

end Migration

namespace Seeder

/-- Whether a word ends in one of some endings, capitals and small letters being the same. -/
def endsIn (endings : List String) (word : List Char) : Bool :=
  endings.any fun ending => ending.toList.isSuffixOf (word.map Char.toLower)

/-- The singular of a word, found from its ending. -/
def singularChars (word : List Char) : List Char :=
  if endsIn ["ies"] word ∧ 3 < word.length then word.dropLast.dropLast.dropLast ++ ['y']
  else if endsIn ["sses", "shes", "ches", "xes", "zzes"] word then word.dropLast.dropLast
  else if endsIn ["ss", "us", "is"] word then word
  else if endsIn ["s"] word ∧ 1 < word.length then word.dropLast
  else word

/-- The singular of a word, found from its ending. -/
def singular (word : String) : String := String.ofList (singularChars word.toList)

/-- The name of a table's model. -/
def modelName (table : String) : String := singular (Text.upperCamel table)

/-- The name of a table's seeder. -/
def className (table : String) : String := modelName table ++ "Seeder"

end Seeder

end SchemaForge
