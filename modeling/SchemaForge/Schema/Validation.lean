import SchemaForge.Error
import SchemaForge.Schema.Set
import SchemaForge.Text.Blank

/-!
# Validation

A schema is valid when its name and the names of its fields are not blank, no two fields share a
name, every index has an argument, and every function or trigger has both of its statements.
`Schema.errors` lists what is wrong in the order of the fields, and `SchemaSet.report` lists the
invalid schemas of a set.
-/

namespace SchemaForge

/-- What is wrong with a field by itself. -/
inductive FieldProblem where
  /-- The name is blank. -/
  | blankName
  /-- An index has no arguments. -/
  | noArguments (type : FieldType)
  /-- A function or trigger lacks one of its statements. -/
  | missingSql (type : FieldType)
deriving DecidableEq, Repr

/-- The wording of a problem. -/
def FieldProblem.message : FieldProblem → String
  | blankName => "field name cannot be empty"
  | noArguments type => "'" ++ type.keyword ++ "' requires at least one argument"
  | missingSql type => "'" ++ type.keyword ++ "' requires both sql_up and sql_down"

/-- The first problem of a field by itself. -/
def Field.problem? (f : Field) : Option FieldProblem :=
  if Text.IsBlank f.name then some .blankName
  else if f.type.isIndex ∧ f.arguments = [] then some (.noArguments f.type)
  else if f.type.isRoutine ∧ (f.sqlUp = none ∨ f.sqlDown = none) then some (.missingSql f.type)
  else none

/-- What is wrong with the fields, given the names of the fields before them. -/
def fieldErrors (schema : String) (seen : List String) : List Field → List Error
  | [] => []
  | f :: rest =>
    let own := f.problem?.toList.map fun p => Error.fieldValidation schema f.name p.message
    let repeated := if f.name ≠ "" ∧ f.name ∈ seen then [Error.duplicateField schema f.name] else []
    own ++ repeated ++ fieldErrors schema (f.name :: seen) rest

namespace Schema

/-- Everything that is wrong with a schema: its name first, then its fields in order. -/
def errors (s : Schema) : List Error :=
  (if Text.IsBlank s.name then [.validation "Schema name cannot be empty"] else []) ++
    fieldErrors s.name [] s.fields

/-- The first error of a schema, if it has one. -/
def validate (s : Schema) : Except Error Unit :=
  match s.errors.head? with
  | some e => .error e
  | none => .ok ()

/-- Whether a schema has no errors. -/
def isValid (s : Schema) : Bool := s.validate.isOk

/-- The wording of everything that is wrong with a schema. -/
def messages (s : Schema) : List String := s.errors.map Error.message

end Schema

/-- One invalid schema of a set. -/
structure InvalidSchema where
  /-- The section of the schema. -/
  action : Action
  /-- The name of the schema. -/
  name : String
  /-- What is wrong with it, at least one error. -/
  errors : List Error

/-- The invalid schemas of a set, section by section, dropped schemas included. -/
def SchemaSet.report (s : SchemaSet) : List InvalidSchema :=
  Action.all.flatMap fun action =>
    (s.schemas action).filterMap fun schema =>
      if schema.errors.isEmpty then none else some ⟨action, schema.name, schema.errors⟩

end SchemaForge
