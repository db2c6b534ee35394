import SchemaForge.Migration.Class
import SchemaForge.Text.Join

/-!
# The registry of seeders

Every seeder that a run generates is called by one root seeder. The first call runs the default
seeder; the calls of the table seeders after it are commented out until those seeders have content.
-/

namespace SchemaForge.Seeder

/-- The class that calls every generated seeder. -/
def rootClass : String := "CiviDatabaseSeeder"

/-- The class of the seeder that the application runs. -/
def databaseClass : String := "DatabaseSeeder"

/-- The statement that runs a seeder. -/
def call (className : String) : String := "$this->call(" ++ className ++ "::class);"

/-- The path of a seeder in a directory. -/
def pathIn (dir : Path) (className : String) : Path := dir.join (fileName className)

/-- The indentation of a statement in a seeder's `run` method. -/
def bodyIndent : String := "        "

/-- The calls of the root seeder, in order. -/
structure Registry where
  /-- The class of the default seeder. -/
  defaultClass : String
  /-- The calls, that of the default seeder first. -/
  calls : List String
deriving DecidableEq, Repr

namespace Registry

/-- The registry with the default seeder only, which is named like a model. -/
def start (name : String) : Registry := ⟨modelName name, [call (modelName name)]⟩

/-- The registry with one more seeder. -/
def register (r : Registry) (className : String) : Registry :=
  { r with calls := r.calls ++ [call className] }

/-- The body of the root seeder: every call but the first is commented out. -/
def content (r : Registry) : String := Text.join ("\n" ++ bodyIndent ++ "// ") r.calls

end Registry

end SchemaForge.Seeder
