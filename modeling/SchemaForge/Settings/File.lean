import SchemaForge.Document.Toml.Parser
import SchemaForge.Error
import SchemaForge.Schema.Reader
import SchemaForge.Storage.Disk

/-!
# The settings file

A TOML document in which every key may be left out and unknown keys are refused. A file that is
named must exist; without a name the file with the default name is read if it exists.
-/

namespace SchemaForge.Settings

open Document

/-- What a settings file says. -/
structure File where
  /-- The schema document. -/
  schema : Option Path := none
  /-- The directory of migrations and seeders. -/
  databaseDir : Option Path := none
  /-- The directory inside those of migrations and seeders. -/
  path : Option String := none
  /-- The directory of templates. -/
  templatesDir : Option Path := none
  /-- Whether seeders are generated. -/
  seed : Option Bool := none
  /-- The name of the default seeder. -/
  seederClass : Option String := none
deriving DecidableEq, Repr

/-- The file that is read without being named. -/
def defaultFile : Path := ⟨"stubsmith.toml"⟩

namespace File

/-- Reads a path. -/
def readPath : Reader Path := fun node => (readTextAs "path string" node).map Path.mk

/-- How settings files are written. -/
def shape : Shape File where
  title := "struct FileConfig"
  blank := {}
  strict := true
  slots := [
    slot "schema" false (readOptional readPath) fun f schema => { f with schema },
    slot "database_dir" false (readOptional readPath) fun f databaseDir => { f with databaseDir },
    slot "path" false (readOptional readText) fun f path => { f with path },
    slot "stubs_dir" false (readOptional readPath) fun f templatesDir => { f with templatesDir },
    slot "seed" false (readOptional readFlag) fun f seed => { f with seed },
    slot "seeder_class" false (readOptional readText) fun f seederClass => { f with seederClass }]

/-- What the text of a settings file says. -/
def parse (text : String) : Except Error File :=
  match Toml.decode (shape.read true) text with
  | .ok file => .ok file
  | .error fault => .error (.invalidConfig ("TOML: " ++ fault.message .plain))

/-- The path of the settings file that is to be read, if there is one. -/
def choose (d : Disk) (named : Option Path) : Option Path :=
  match named with
  | some path => some path
  | none => if d.hasFile defaultFile then some defaultFile else none

/-- The text of the settings file at a path. -/
def readText (d : Disk) (path : Path) : Except Error String :=
  match d.read path with
  | .ok text => .ok text
  | .error fault => .error (.fileRead path fault.message)

/-- What the settings file says: the named one, or the one with the default name if it exists. -/
def load (d : Disk) (named : Option Path) : Except Error File :=
  match choose d named with
  | none => .ok {}
  | some path => readText d path >>= parse

end File

end SchemaForge.Settings
