import SchemaForge.Action
import SchemaForge.Error

/-!
# What an action means

An action adds or drops elements of one kind. Undoing it drops the elements, or the whole table if
the action creates tables. The two halves of a migration are resolved one after the other, and
either can refuse a keyword.
-/

namespace SchemaForge

/-- How a migration is undone. -/
inductive DownPlan where
  /-- Every field is rendered in a direction. -/
  | fields (direction : Direction)
  /-- The whole table is dropped. -/
  | dropTable
deriving DecidableEq, Repr

/-- Both halves of what an action means. -/
structure Resolution where
  /-- The action. -/
  action : Action
  /-- The kind of element that the fields describe. -/
  kind : ElementKind
  /-- The direction of the change. -/
  up : Direction
  /-- How the change is undone. -/
  down : DownPlan
deriving DecidableEq, Repr

namespace Resolution

/-- The action of a keyword, as one half of a migration needs it. -/
def actionFor (half keyword : String) : Except Error Action :=
  match Action.ofKeyword? keyword with
  | some action => .ok action
  | none => .error (.unsupportedAction keyword half)

/-- The kind of element of an action, as one half of a migration needs it. -/
def kindFor (half keyword : String) (a : Action) : Except Error ElementKind :=
  match ElementKind.ofNoun? a.noun? with
  | some kind => .ok kind
  | none => .error (.unsupportedAction keyword half)

/-- The action, direction and kind of element of the change itself. -/
def resolveUp (keyword : String) : Except Error (Action × Direction × ElementKind) := do
  let action ← actionFor "up" keyword
  let kind ← kindFor "up" keyword action
  return (action, if action.verb = "remove" then .drop else .add, kind)

/-- How the change is undone. -/
def resolveDown (keyword : String) : Except Error DownPlan := do
  let action ← actionFor "down" keyword
  if action.createsTable then return .dropTable
  else do
    let _ ← kindFor "down" keyword action
    return .fields .drop

/-- Both halves of what a keyword means; the change itself is resolved first. -/
def resolve (keyword : String) : Except Error Resolution := do
  let (action, up, kind) ← resolveUp keyword
  let down ← resolveDown keyword
  return ⟨action, kind, up, down⟩

end Resolution

end SchemaForge
