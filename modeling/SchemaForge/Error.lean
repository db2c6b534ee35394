import SchemaForge.Document.Fault
import SchemaForge.Storage.Path

/-!
# Errors

Everything that can go wrong in the generation of files, by cause, and the wording of each cause.
Errors fall into families: a schema is invalid, a template is missing, a file cannot be reached.
-/

namespace SchemaForge

/-- Why something could not be generated. -/
inductive Error where
  /-- No action has the keyword; `half` is the method that was being built. -/
  | unsupportedAction (keyword half : String)
  /-- A template does not exist. -/
  | templateNotFound (name : String) (path : Path)
  /-- A template has tokens that nothing is put in the place of. -/
  | unresolvedPlaceholder (template : String) (placeholders : List String)
  /-- A schema is invalid as a whole. -/
  | validation (message : String)
  /-- A field of a schema is invalid. -/
  | fieldValidation (schema field message : String)
  /-- A schema has two fields of one name. -/
  | duplicateField (schema field : String)
  /-- A file cannot be read. -/
  | fileRead (path : Path) (reason : String)
  /-- A file cannot be written. -/
  | fileWrite (path : Path) (reason : String)
  /-- A directory cannot be made. -/
  | directoryCreate (path : Path) (reason : String)
  /-- A JSON document cannot be read. -/
  | json (fault : Document.Fault)
  /-- A schema document cannot be understood. -/
  | invalidSchema (detail : String)
  /-- The settings do not make sense. -/
  | invalidConfig (detail : String)

namespace Error

/-- The wording of an error. -/
def message : Error → String
  | unsupportedAction keyword half =>
    "Unsupported action '" ++ keyword ++ "' while building the " ++ half ++ " method"
  | templateNotFound name path => "Template '" ++ name ++ "' not found at " ++ path.text
  | unresolvedPlaceholder template placeholders =>
    "Template '" ++ template ++ "' has unresolved placeholders: " ++ ", ".intercalate placeholders
  | validation message => "Validation error: " ++ message
  | fieldValidation schema field message =>
    "Field validation failed for '" ++ schema ++ "." ++ field ++ "': " ++ message
  | duplicateField schema field =>
    "Duplicate field name: '" ++ field ++ "' already exists in '" ++ schema ++ "'"
  | fileRead path reason => "Failed to read file '" ++ path.text ++ "': " ++ reason
  | fileWrite path reason => "Failed to write file '" ++ path.text ++ "': " ++ reason
  | directoryCreate path reason =>
    "Failed to create directory '" ++ path.text ++ "': " ++ reason
  | json fault => "JSON serialization error: " ++ fault.message .json
  | invalidSchema detail => "Invalid schema document: " ++ detail
  | invalidConfig detail => "Invalid configuration: " ++ detail

/-- Whether the error says that a schema is invalid. -/
def isValidation : Error → Bool
  | validation _ | fieldValidation .. | duplicateField .. => true
  | _ => false

/-- Whether the error says that a template does not exist. -/
def isNotFound : Error → Bool
  | templateNotFound .. => true
  | _ => false

/-- Whether the error comes from the disk. -/
def isStorage : Error → Bool
  | fileRead .. | fileWrite .. | directoryCreate .. => true
  | _ => false

end Error

end SchemaForge
