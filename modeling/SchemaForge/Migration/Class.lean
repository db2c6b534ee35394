import SchemaForge.Migration.Bodies
import SchemaForge.Migration.Name
import SchemaForge.Text.Blank

/-!
# Generated classes

The full text of a migration class or a seeder class, and the file it goes into. A template is
checked for leftover tokens after the names are put in and before the bodies are, and a class that
is returned has no token of its template left.
-/

namespace SchemaForge

open Template

/-- The kinds of generated files. -/
inductive FileKind where
  /-- A migration class. -/
  | migration
  /-- A seeder class. -/
  | seeder
deriving DecidableEq, Repr

/-- The name of a kind. -/
def FileKind.label : FileKind → String
  | migration => "migration"
  | seeder => "seeder"

/-- A generated file. -/
structure GeneratedFile where
  /-- Where the file goes. -/
  path : Path
  /-- The text of the file. -/
  content : String
  /-- The kind of the file. -/
  kind : FileKind
deriving DecidableEq, Repr

namespace Migration

/-- The text of the migration class of a schema under an action. -/
def classText (source : Source) (schema : Schema) (a : Action) : Except Error String := do
  let bodies ← bodies source schema a.keyword
  let template ← source.load migrationName
  let base := substitute template
    [(.className, className a schema.name), (.table, schema.name)]
  ensureResolved migrationName (substitute base [(.schemaUp, ""), (.schemaDown, "")])
  return substitute base [(.schemaUp, bodies.up), (.schemaDown, bodies.down)]

/-- The file of a migration, named for its stamp, action and table. -/
def generate (source : Source) (schema : Schema) (a : Action) (m : Moment) :
    Except Error GeneratedFile :=
  (classText source schema a).map fun text =>
    ⟨⟨fileName m a schema.name⟩, text, .migration⟩

end Migration

namespace Seeder

/-- The body of a seeder that has nothing to run. -/
def emptyBody : String := "//"

/-- The text of a seeder class whose `run` method has the given body. -/
def classText (source : Source) (className content : String) : Except Error String := do
  let template ← source.load seederName
  let body := if Text.IsBlank content then emptyBody else content
  let base := substitute template [(.className, className)]
  ensureResolved seederName (substitute base [(.content, "")])
  return substitute base [(.content, body)]

/-- The name of a seeder's file. -/
def fileName (className : String) : String := className ++ "." ++ codeExtension

/-- The file of a seeder. -/
def generate (source : Source) (className content : String) : Except Error GeneratedFile :=
  (classText source className content).map fun text => ⟨⟨fileName className⟩, text, .seeder⟩

end Seeder

end SchemaForge
