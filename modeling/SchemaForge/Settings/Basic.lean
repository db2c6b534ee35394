import SchemaForge.Settings.File
import SchemaForge.Template.Source
import SchemaForge.Text.Blank

/-!
# Settings of a run

Settings come in layers: what is given for one run wins over the settings file, which wins over the
defaults. The schema document has no default, and the name of the default seeder must not be blank.
-/

namespace SchemaForge

/-- What is given for one run. -/
structure Overrides where
  /-- The schema document. -/
  schema : Option Path := none
  /-- The directory of migrations and seeders. -/
  databaseDir : Option Path := none
  /-- The directory inside those of migrations and seeders. -/
  path : Option String := none
  /-- The directory of templates. -/
  templatesDir : Option Path := none
  /-- Whether seeders are generated whatever the settings file says. -/
  seed : Bool := false
  /-- The name of the default seeder. -/
  seederClass : Option String := none
  /-- Whether nothing is written. -/
  dryRun : Bool := false
deriving DecidableEq, Repr

/-- The settings of one run. -/
structure Settings where
  /-- The schema document. -/
  schema : Path
  /-- The directory of migrations and seeders. -/
  databaseDir : Path := ⟨"database"⟩
  /-- The directory inside those of migrations and seeders. -/
  path : String := "civi"
  /-- The directory of templates, if not those of the program are used. -/
  templatesDir : Option Path := none
  /-- Whether seeders are generated. -/
  seed : Bool := false
  /-- The name of the default seeder. -/
  seederClass : String := "CiviDefaultSeeder"
  /-- Whether nothing is written. -/
  dryRun : Bool := false
deriving DecidableEq, Repr

namespace Settings

/-- The detail of the error for a missing schema document. -/
def noSchema : String :=
  "no schema document given (pass --schema or set `schema` in the config file)"

/-- The detail of the error for a blank default seeder. -/
def blankSeeder : String := "seeder class must not be empty"

/-- The settings that the layers make together. -/
def resolve (file : File) (given : Overrides) : Except Error Settings :=
  match given.schema.or file.schema with
  | none => .error (.invalidConfig noSchema)
  | some schema =>
    let base : Settings := { schema }
    let seederClass := given.seederClass.or file.seederClass
    if seederClass.any fun name => decide (Text.IsBlank name) then
      .error (.invalidConfig blankSeeder)
    else .ok {
      schema
      databaseDir := (given.databaseDir.or file.databaseDir).getD base.databaseDir
      path := (given.path.or file.path).getD base.path
      templatesDir := given.templatesDir.or file.templatesDir
      seed := given.seed || file.seed.getD false
      seederClass := seederClass.getD base.seederClass
      dryRun := given.dryRun }

/-- The directory of migrations. -/
def migrationsDir (s : Settings) : Path := (s.databaseDir.join "migrations").join s.path

/-- The directory of the seeders that are not for one table. -/
def seedsRoot (s : Settings) : Path := s.databaseDir.join "seeds"

/-- The directory of table seeders. -/
def seedsDir (s : Settings) : Path := s.seedsRoot.join s.path

/-- Where the templates come from. -/
def templates (s : Settings) : Template.Origin :=
  match s.templatesDir with
  | some dir => .directory dir
  | none => .builtin

end Settings

end SchemaForge
