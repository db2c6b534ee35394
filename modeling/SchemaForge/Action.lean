import SchemaForge.Text.Camel
import SchemaForge.Text.Search

/-!
# Actions

The closed vocabulary of migrations. An action's keyword has a verb and sometimes a noun, divided by
the first underscore; the noun says what kind of element the fields describe, and the verb whether
the migration adds them or drops them.
-/

namespace SchemaForge

/-- What a migration does to a table. -/
inductive Action where
  /-- Create a table. -/
  | create
  /-- Create the stored functions of a table. -/
  | createFunction
  /-- Create the triggers of a table. -/
  | createTrigger
  /-- Alter an existing table. -/
  | update
  /-- Remove columns or indexes from an existing table. -/
  | remove
deriving DecidableEq, Repr

/-- Which half of a reversible change is rendered. -/
inductive Direction where
  /-- The elements are added. -/
  | add
  /-- The elements are dropped. -/
  | drop
deriving DecidableEq, Repr

/-- The kind of schema element that a list of fields describes. -/
inductive ElementKind where
  /-- Columns and indexes. -/
  | column
  /-- Stored functions. -/
  | function
  /-- Triggers. -/
  | trigger
deriving DecidableEq, Repr

namespace Action

/-- Every action, in the order in which a run takes them. -/
def all : List Action := [create, createFunction, createTrigger, update, remove]

/-- What divides the verb of a keyword from its noun. -/
def separator : Char := '_'

/-- The keyword of an action. -/
def keyword : Action → String
  | create => "create"
  | createFunction => "create_function"
  | createTrigger => "create_trigger"
  | update => "update"
  | remove => "remove"

/-- The action with a given keyword. -/
def ofKeyword? (word : String) : Option Action := all.find? (·.keyword == word)

/-- The parts of the keyword before and after the first separator. -/
def split (a : Action) : Option (List Char × List Char) :=
  Text.cut [separator] a.keyword.toList

/-- The part of the keyword before the first separator. -/
def verb (a : Action) : String :=
  match a.split with
  | some (before, _) => String.ofList before
  | none => a.keyword

/-- The part of the keyword after the first separator, if it has one. -/
def noun? (a : Action) : Option String := a.split.map fun parts => String.ofList parts.2

/-- Whether the action creates whole tables, which are dropped as a whole to undo it. -/
def createsTable (a : Action) : Bool := a.verb == "create" && a.noun?.isNone

end Action

namespace Direction

/-- Both directions. -/
def all : List Direction := [add, drop]

/-- The name of a direction. -/
def name : Direction → String
  | add => "Add"
  | drop => "Drop"

end Direction

namespace ElementKind

/-- Every kind of element. -/
def all : List ElementKind := [column, function, trigger]

/-- The name of a kind. -/
def name : ElementKind → String
  | column => "Column"
  | function => "Function"
  | trigger => "Trigger"

/-- The kind that an action's noun names, in any spelling with the same words; no noun means
columns. -/
def ofNoun? : Option String → Option ElementKind
  | none => some column
  | some noun => all.find? (·.name == Text.upperCamel noun)

end ElementKind

end SchemaForge
