import SchemaForge.Document.Fault
import SchemaForge.Document.Node

/-!
# Reading documents

A reader turns a node into a value or says what is wrong with it. Everything is read in the order
of the text and the first fault counts, whether it is one of shape or one of form.

Records are read by shape: a list of slots, each of which knows the name of a member and how to put
its value into the record. A record is written as a table, in which unknown members are skipped and
known ones may come once, or as a list of its members in order, in which members with a default may
be left out at the end.
-/

namespace SchemaForge.Document

/-- Turns a node into a value. -/
abbrev Reader (α : Type) := Node → Except Fault α

/-- The fault of a node that is not of the expected type. -/
def Node.mismatch (expected : String) : Node → Fault
  | .null => .wrongType .null expected
  | .flag on => .wrongType (.flag on) expected
  | .integer value => .wrongType (.integer value) expected
  | .real value => .wrongType (.real value) expected
  | .text value => .wrongType (.text value) expected
  | .list _ => .wrongType .list expected
  | .table _ => .wrongType .table expected
  | .unreadable => .malformed
  | .broken => .malformed

/-- Reads a text that the wording of a fault calls `expected`. -/
def readTextAs (expected : String) : Reader String
  | .text value => .ok value
  | node => .error (node.mismatch expected)

/-- Reads a text. -/
def readText : Reader String := readTextAs "a string"

/-- Reads a truth value. -/
def readFlag : Reader Bool
  | .flag on => .ok on
  | node => .error (node.mismatch "a boolean")

/-- Reads a value that may be null. -/
def readOptional {α : Type} (read : Reader α) : Reader (Option α)
  | .null => .ok none
  | node => (read node).map some

/-- Reads the elements of a list. -/
def readItems {α : Type} (read : Reader α) : Items → Except Fault (List α)
  | .close => .ok []
  | .broken => .error .malformed
  | .item value rest => do
    let a ← read value
    let as ← readItems read rest
    return a :: as

/-- Reads a list. -/
def readList {α : Type} (read : Reader α) : Reader (List α)
  | .list items => readItems read items
  | node => .error (node.mismatch "a sequence")

/-- Adds the members of a table to a value, in order. -/
def readMembers {α : Type} (add : α → String → Node → Except Fault α) :
    α → Members → Except Fault α
  | a, .close => .ok a
  | _, .broken => .error .malformed
  | a, .member key value rest =>
    match key with
    | .text name => do
      let a' ← add a name value
      readMembers add a' rest
    | _ => .error .malformed

/-- Reads a table by adding its members to an empty value. -/
def readTable {α : Type} (empty : α) (add : α → String → Node → Except Fault α) : Reader α
  | .table members => readMembers add empty members
  | node => .error (node.mismatch "a map")

/-- The name of one of several variants, written as a text or as a table with one null member. -/
def readVariant (names : List String) : Reader String
  | .text name => known name
  | .table (.member key value rest) =>
    match key with
    | .text name => do
      let name ← known name
      match value, rest with
      | .null, .close => return name
      | .null, _ => .error .malformed
      | node, _ => .error (node.mismatch "unit")
    | _ => .error .malformed
  | _ => .error .malformed
where
  /-- The name itself, if it is one of the variants. -/
  known (name : String) : Except Fault String :=
    if name ∈ names then .ok name else .error (.unknownVariant name names)

/-- One member of a record of type `α`. -/
structure Slot (α : Type) where
  /-- The name of the member. -/
  name : String
  /-- Whether the member must be given. -/
  required : Bool
  /-- Puts the value of the member into the record. -/
  fill : α → Node → Except Fault α

/-- How records of type `α` are written. -/
structure Shape (α : Type) where
  /-- What the wording of a fault calls such a record. -/
  title : String
  /-- The members, in order. -/
  slots : List (Slot α)
  /-- The record before any member is read. -/
  blank : α
  /-- Whether members with unknown names are refused. -/
  strict : Bool := false

namespace Shape

variable {α : Type}

/-- The names of the members. -/
def names (shape : Shape α) : List String := shape.slots.map (·.name)

/-- What the wording of a fault calls a record that is written as a list. -/
def listTitle (shape : Shape α) : String :=
  shape.title ++ " with " ++ Decimal.natText shape.slots.length ++
    (if shape.slots.length = 1 then " element" else " elements")

/-- Adds one member of a table to a record; `filled` are the names of the members before it. -/
def addMember (shape : Shape α) (state : α × List String) (name : String) (value : Node) :
    Except Fault (α × List String) :=
  match shape.slots.find? (·.name == name) with
  | some slot =>
    if name ∈ state.2 then .error (.duplicateField name)
    else (slot.fill state.1 value).map fun record => (record, name :: state.2)
  | none =>
    if shape.strict then .error (.unknownField name shape.names)
    else if value.isWhole then .ok state
    else .error .malformed

/-- Reads a record from the members of a table. -/
def readNamed (shape : Shape α) (members : Members) : Except Fault α := do
  let (record, filled) ← readMembers shape.addMember (shape.blank, []) members
  match shape.slots.find? fun slot => slot.required && !filled.contains slot.name with
  | some slot => .error (.missingField slot.name)
  | none => return record

/-- Reads a record from the elements of a list, of which `count` are read; `surplus` says whether
elements after the last member are let pass. -/
def readPlaced (shape : Shape α) (surplus : Bool) :
    List (Slot α) → Nat → α → Items → Except Fault α
  | [], _, record, .close => .ok record
  | [], _, record, .item _ _ => if surplus then .ok record else .error .malformed
  | slot :: rest, count, record, .close =>
    if slot.required then .error (.wrongLength count shape.listTitle)
    else readPlaced shape surplus rest count record .close
  | slot :: slots, count, record, .item value rest => do
    let record' ← slot.fill record value
    readPlaced shape surplus slots (count + 1) record' rest
  | _, _, _, .broken => .error .malformed

/-- Reads a record. -/
def read (shape : Shape α) (surplus : Bool) : Reader α
  | .table members => shape.readNamed members
  | .list items => shape.readPlaced surplus shape.slots 0 shape.blank items
  | node => .error (node.mismatch shape.title)

end Shape

end SchemaForge.Document
