import SchemaForge.Migration.Resolution
import SchemaForge.Migration.Statement
import SchemaForge.Schema.Set
import SchemaForge.Template.Source

/-!
# Bodies of a migration

The bodies of a migration's two methods: the statements of the schema's fields inside the action's
wrapper. The wrapper's own tokens are settled and checked before any statement goes in, so that
nothing in a statement is taken for a token.
-/

namespace SchemaForge.Migration

open Template

/-- The bodies of a migration's methods. -/
structure Bodies where
  /-- The body of the method that makes the change. -/
  up : String
  /-- The body of the method that takes it back. -/
  down : String
deriving DecidableEq, Repr

/-- The placeholder of the other method's body. -/
def otherSlot (slot : Placeholder) : Placeholder :=
  if slot = .schemaUp then .schemaDown else .schemaUp

/-- The wrapper with the table named and the other method's place cleared. -/
def skeleton (wrapper : String) (slot : Placeholder) (table : String) : String :=
  substitute wrapper [(.table, table), (otherSlot slot, "")]

/-- A wrapper with one method's statements in their place; `template` names the wrapper. -/
def fillHalf (template wrapper statements : String) (slot : Placeholder) (table : String) :
    Except Error String := do
  let base := skeleton wrapper slot table
  ensureResolved template (fill base slot "")
  return fill base slot statements

/-- The bodies of the migration of a schema under the action with a given keyword. -/
def bodies (source : Source) (schema : Schema) (keyword : String) : Except Error Bodies := do
  let r ← Resolution.resolve keyword
  let wrapper ← source.wrapper r.action
  let name := wrapperName r.action
  let statements := fun d => Statement.block schema.fields d r.kind .closureBody
  let up ← fillHalf name wrapper (statements r.up) .schemaUp schema.name
  let down ← match r.down with
    | .fields d => fillHalf name wrapper (statements d) .schemaDown schema.name
    | .dropTable => .ok (Statement.dropTable schema.name)
  return ⟨up, down⟩

end SchemaForge.Migration
