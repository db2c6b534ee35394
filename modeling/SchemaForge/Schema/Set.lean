import SchemaForge.Action
import SchemaForge.Schema.Field

/-!
# Schemas and sets of schemas

A schema names a table and lists its fields. A set groups schemas by the action that is generated
for them; a schema marked as dropped stays in its section but is not generated.
-/

namespace SchemaForge

/-- A table, or a group of functions or triggers, and its fields in order. -/
structure Schema where
  /-- The name of the table. -/
  name : String
  /-- The fields, in order. -/
  fields : List Field := []
  /-- Whether nothing is generated for the schema. -/
  drop : Bool := false

/-- Schemas by action. -/
structure SchemaSet where
  /-- Tables to create. -/
  create : List Schema := []
  /-- Functions to create. -/
  createFunction : List Schema := []
  /-- Triggers to create. -/
  createTrigger : List Schema := []
  /-- Tables to alter. -/
  update : List Schema := []
  /-- Tables to remove columns or indexes from. -/
  remove : List Schema := []

/-- The schema with one more field. -/
def Schema.withField (s : Schema) (f : Field) : Schema := { s with fields := s.fields ++ [f] }

/-- Whether two lists have equal members in the same order, in the sense of `eq`. -/
def sameList {α : Type} (eq : α → α → Bool) : List α → List α → Bool
  | [], [] => true
  | a :: as, b :: bs => eq a b && sameList eq as bs
  | _, _ => false

/-- Whether two schemas are equal, with modifiers in whatever order. -/
def Schema.same (a b : Schema) : Bool :=
  a.name == b.name && sameList Field.same a.fields b.fields && a.drop == b.drop

namespace SchemaSet

/-- The set without schemas. -/
def empty : SchemaSet := {}

/-- The schemas of an action. -/
def schemas (s : SchemaSet) : Action → List Schema
  | .create => s.create
  | .createFunction => s.createFunction
  | .createTrigger => s.createTrigger
  | .update => s.update
  | .remove => s.remove

/-- The set with other schemas for one action. -/
def withSchemas (s : SchemaSet) (schemas : List Schema) : Action → SchemaSet
  | .create => { s with create := schemas }
  | .createFunction => { s with createFunction := schemas }
  | .createTrigger => { s with createTrigger := schemas }
  | .update => { s with update := schemas }
  | .remove => { s with remove := schemas }

/-- The set with one more schema at the end of an action's section. -/
def push (s : SchemaSet) (a : Action) (schema : Schema) : SchemaSet :=
  s.withSchemas (s.schemas a ++ [schema]) a

/-- The schemas of an action that are not marked as dropped. -/
def active (s : SchemaSet) (a : Action) : List Schema := (s.schemas a).filter (!·.drop)

/-- The number of schemas. -/
def size (s : SchemaSet) : Nat := (Action.all.flatMap s.schemas).length

/-- Whether two sets are equal, with modifiers in whatever order. -/
def same (a b : SchemaSet) : Bool :=
  Action.all.all fun action => sameList Schema.same (a.schemas action) (b.schemas action)

end SchemaSet

end SchemaForge
