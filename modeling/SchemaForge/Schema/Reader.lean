import SchemaForge.Document.Reader
import SchemaForge.Schema.Set

/-!
# Reading schemas

How fields, schemas and sets of schemas are written in a document. Arguments may be given as one
text instead of a list, where the empty text means no arguments; the value of a modifier is a truth
value, a number or a text. Everything but the names and types may be left out.
-/

namespace SchemaForge

open Document

/-- Reads the type of a field from its keyword. -/
def FieldType.read : Reader FieldType := fun node => (readText node).map ofKeyword

/-- The whole numbers that a modifier can have as such; others are real. -/
def OptionValue.ofInteger (value : Int) : OptionValue :=
  if Int64.minValue.toInt ≤ value ∧ value ≤ Int64.maxValue.toInt then .integer (Int64.ofInt value)
  else .real (if value < 0 then -Float.ofNat value.natAbs else Float.ofNat value.natAbs)

/-- Reads the value of a modifier. -/
def OptionValue.read : Reader OptionValue := fun node =>
  if !node.isReadable then .error .malformed
  else
    match node with
    | .flag on => .ok (.flag on)
    | .integer value => .ok (ofInteger value)
    | .real value => .ok (.real value)
    | .text text => .ok (.literal text)
    | _ => .error (.noVariant "OptionValue")

/-- Reads modifiers by name; a name that is given again has its last value. -/
def Options.read : Reader Options :=
  readTable [] fun options method node =>
    (OptionValue.read node).map fun value => options.insert method value

/-- The texts of a list, if it has texts only. -/
def textItems? : Items → Option (List String)
  | .item (.text t) rest => (textItems? rest).map (t :: ·)
  | .item _ _ => none
  | _ => some []

/-- Reads arguments, as a list of texts or as one text. -/
def readArguments : Reader (List String) := fun node =>
  if !node.isReadable then .error .malformed
  else
    match node with
    | .text t => .ok (if t = "" then [] else [t])
    | .list items =>
      match textItems? items with
      | some texts => .ok texts
      | none => .error (.noVariant "Arguments")
    | _ => .error (.noVariant "Arguments")

/-- A slot whose value is read and then put into the record. -/
def slot {α β : Type} (name : String) (required : Bool) (read : Reader β) (put : α → β → α) :
    Slot α :=
  ⟨name, required, fun record node => (read node).map (put record)⟩

/-- How fields are written. -/
def Field.shape : Shape Field where
  title := "struct Field"
  blank := { name := "", type := .column "" }
  slots := [
    slot "name" true readText fun f name => { f with name },
    slot "type" true FieldType.read fun f type => { f with type },
    slot "arguments" false readArguments fun f arguments => { f with arguments },
    slot "options" false Options.read fun f options => { f with options },
    slot "sql_up" false (readOptional readText) fun f sqlUp => { f with sqlUp },
    slot "sql_down" false (readOptional readText) fun f sqlDown => { f with sqlDown }]

/-- How schemas are written; `surplus` says whether a list that stands for a record may have more
elements than the record has members. -/
def Schema.shape (surplus : Bool) : Shape Schema where
  title := "struct Schema"
  blank := { name := "" }
  slots := [
    slot "name" true readText fun s name => { s with name },
    slot "fields" false (readList (Field.shape.read surplus)) fun s fields => { s with fields },
    slot "drop" false readFlag fun s drop => { s with drop }]

/-- The slot of one section of a set. -/
def SchemaSet.sectionSlot (surplus : Bool) (a : Action) : Slot SchemaSet :=
  slot a.keyword false (readList ((Schema.shape surplus).read surplus)) fun s schemas =>
    s.withSchemas schemas a

/-- How sets of schemas are written. -/
def SchemaSet.shape (surplus : Bool) : Shape SchemaSet where
  title := "struct SchemaSet"
  blank := .empty
  slots := Action.all.map (SchemaSet.sectionSlot surplus)

end SchemaForge
