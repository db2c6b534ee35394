import SchemaForge.Document.Json.Parser
import SchemaForge.Document.Toml.Parser
import SchemaForge.Schema.Printer
import SchemaForge.Schema.Reader
import SchemaForge.Schema.Validation
import SchemaForge.Storage.Disk

/-!
# Files of schemas

A set of schemas is read from a JSON or TOML file, by the extension of its name, and written to a
JSON file.
-/

namespace SchemaForge

/-- The formats of schema documents. -/
inductive SchemaFormat where
  /-- JSON. -/
  | json
  /-- TOML. -/
  | toml
deriving DecidableEq, Repr

namespace SchemaFormat

/-- A text in small letters, as far as it has capitals without accents. -/
def lower (text : String) : String := String.ofList (text.toList.map Char.toLower)

/-- The format of a file, from the extension of its name in whatever case. -/
def ofPath (p : Path) : Except Error SchemaFormat :=
  match p.extension?.map lower with
  | some "json" => .ok .json
  | some "toml" => .ok .toml
  | _ => .error (.invalidSchema
      ("unsupported extension " ++ Text.quoted (p.extension?.getD "") ++ " for '" ++ p.text ++
        "' (expected .json or .toml)"))

end SchemaFormat

namespace SchemaSet

/-- The set of schemas that a document describes. -/
def parse (format : SchemaFormat) (text : String) : Except Error SchemaSet :=
  match format with
  | .json => (Document.Json.decode ((shape false).read false) text).mapError .json
  | .toml => (Document.Toml.decode ((shape true).read true) text).mapError
      fun fault => .invalidSchema ("TOML: " ++ fault.message .plain)

/-- The set of schemas in a file. -/
def load (d : Disk) (p : Path) : Except Error SchemaSet := do
  let format ← SchemaFormat.ofPath p
  match d.read p with
  | .error fault => .error (.fileRead p fault.message)
  | .ok text =>
    (parse format text).mapError fun e => .invalidSchema (p.text ++ ": " ++ e.message)

/-- The text in which a set is saved. -/
def savedText (s : SchemaSet) : String := s.toJson.pretty

/-- The disk with the directory that a path lies in, made if it is missing. -/
def makeParent (d : Disk) (p : Path) : Disk × Option Error :=
  match p.parent? with
  | some dir =>
    if dir.text = "" ∨ d.hasEntry dir then (d, none)
    else
      match d.makeDirs dir with
      | (d', none) => (d', none)
      | (d', some fault) => (d', some (.directoryCreate dir fault.message))
  | none => (d, none)

/-- The disk after a set is saved at a path, and what went wrong. -/
def save (s : SchemaSet) (d : Disk) (p : Path) : Disk × Option Error :=
  match makeParent d p with
  | (d', some e) => (d', some e)
  | (d', none) =>
    match d'.write p s.savedText with
    | .ok d'' => (d'', none)
    | .error fault => (d', some (.fileWrite p fault.message))

end SchemaSet

end SchemaForge
