import SchemaForge.Decimal.Real
import SchemaForge.Text.Quoted

/-!
# Faults of documents

What can be wrong with a JSON or TOML document: its text is malformed, or what it says does not have
the shape that is asked for. `Fault.message` is the wording.
-/

namespace SchemaForge.Document

/-- What a document has where something else was expected. -/
inductive Found where
  /-- The null value. -/
  | null
  /-- A truth value. -/
  | flag (on : Bool)
  /-- A whole number. -/
  | integer (value : Int)
  /-- A real number. -/
  | real (value : Float)
  /-- A text. -/
  | text (value : String)
  /-- A list. -/
  | list
  /-- A table of members. -/
  | table

/-- The wording of what was found; reals are written in the given style. -/
def Found.message (style : Decimal.RealStyle) : Found → String
  | null => "null"
  | flag on => "boolean `" ++ (if on then "true" else "false") ++ "`"
  | integer value => "integer `" ++ Decimal.intText value ++ "`"
  | real value => "floating point `" ++ Decimal.realText style value ++ "`"
  | text value => "string " ++ Text.quoted value
  | list => "sequence"
  | table => "map"

/-- Why a document cannot be read. -/
inductive Fault where
  /-- The text breaks the rules of its format. -/
  | malformed
  /-- A value is of another type than expected. -/
  | wrongType (found : Found) (expected : String)
  /-- A list has too few elements. -/
  | wrongLength (length : Nat) (expected : String)
  /-- A member is given twice. -/
  | duplicateField (name : String)
  /-- A member that must be given is not. -/
  | missingField (name : String)
  /-- A member has a name that is not known. -/
  | unknownField (name : String) (known : List String)
  /-- A name is none of the known ones. -/
  | unknownVariant (name : String) (known : List String)
  /-- A value has none of the forms of a type. -/
  | noVariant (type : String)

/-- A name between backquotes. -/
def ticked (name : String) : String := "`" ++ name ++ "`"

/-- The wording of a choice between known names. -/
def choice : List String → String
  | [] => "nothing"
  | [a] => ticked a
  | [a, b] => ticked a ++ " or " ++ ticked b
  | many => "one of " ++ ", ".intercalate (many.map ticked)

/-- The wording of a fault; reals are written in the given style. -/
def Fault.message (style : Decimal.RealStyle) : Fault → String
  | malformed => "malformed"
  | wrongType found expected =>
    "invalid type: " ++ found.message style ++ ", expected " ++ expected
  | wrongLength length expected =>
    "invalid length " ++ Decimal.natText length ++ ", expected " ++ expected
  | duplicateField name => "duplicate field " ++ ticked name
  | missingField name => "missing field " ++ ticked name
  | unknownField name known => "unknown field " ++ ticked name ++ ", expected " ++ choice known
  | unknownVariant name known =>
    "unknown variant " ++ ticked name ++ ", expected " ++ choice known
  | noVariant type => "data did not match any variant of untagged enum " ++ type

end SchemaForge.Document
