import SchemaForge.Proofs.Migration.Compile

/-!
# What decides whether a class can be generated

Whether a migration or a seeder can be generated, and why not, is decided by its templates and its
names. Every check comes before the statements go in, so `Migration.check` and `Seeder.check` come
to the same verdict without having seen any (`verdict_classText`), and no field can let a class
through or stop it (`alike_classText`).
-/

namespace SchemaForge

open Template

variable {α β : Type}

/-- Two computations end alike: both have a result, or both fail for the same reason. -/
def Alike (x y : Except Error α) : Prop :=
  ((∃ v, x = .ok v) ↔ ∃ v, y = .ok v) ∧ ∀ e, x = .error e ↔ y = .error e

/-- How a computation ends, without its result. -/
def verdict (x : Except Error α) : Except Error Unit := x.map fun _ => ()

/-- Computations that come to the same verdict end alike. -/
theorem Alike.of_verdict {x y : Except Error α} (h : verdict x = verdict y) : Alike x y := by
  cases x with
  | error e =>
    cases y with
    | error e' =>
      obtain rfl : e = e' := by simpa [verdict, Except.map] using h
      exact ⟨Iff.rfl, fun _ => Iff.rfl⟩
    | ok w => cases h
  | ok v =>
    cases y with
    | error e => cases h
    | ok w => exact ⟨⟨fun _ => ⟨w, rfl⟩, fun _ => ⟨v, rfl⟩⟩, fun e => ⟨nofun, nofun⟩⟩

/-- The verdict on two steps is that on the second, if the first has a result. -/
theorem verdict_bind (x : Except Error α) (f : α → Except Error β) :
    verdict (x >>= f) = x >>= fun v => verdict (f v) := by
  cases x <;> rfl

/-- If the second of two steps ends in the same way for every result of the first, only the verdict
on the first one matters. -/
theorem verdict_bind_const {x : Except Error α} {f : α → Except Error β} {rest : Except Error Unit}
    (h : ∀ v, verdict (f v) = rest) : verdict (x >>= f) = verdict x >>= fun _ => rest := by
  cases x with
  | error e => rfl
  | ok v => exact h v

/-- Only the verdict on a computation matters if nothing else can fail after it. -/
theorem verdict_bind_pure (x : Except Error α) (f : α → β) :
    verdict (x >>= fun v => pure (f v)) = verdict x := by
  cases x <;> rfl

/-- A check is its own verdict. -/
theorem verdict_unit (x : Except Error Unit) : verdict x = x := by
  cases x <;> rfl

/-! ## Migrations -/

namespace Migration

variable {source : Source} {schema : Schema}

/-- The check of a wrapper for one half: the table is named, and the slots of both methods are
empty. -/
def checkHalf (template wrapper : String) (slot : Placeholder) (table : String) :
    Except Error Unit :=
  ensureResolved template (fill (skeleton wrapper slot table) slot "")

/-- The checks on the way to the bodies of a migration. -/
def checkBodies (source : Source) (table keyword : String) : Except Error Unit := do
  let r ← Resolution.resolve keyword
  let wrapper ← source.wrapper r.action
  checkHalf (wrapperName r.action) wrapper .schemaUp table
  match r.down with
  | .fields _ => checkHalf (wrapperName r.action) wrapper .schemaDown table
  | .dropTable => .ok ()

/-- The checks on the way to a migration. -/
def check (source : Source) (table : String) (a : Action) : Except Error Unit := do
  checkBodies source table a.keyword
  let template ← source.load migrationName
  let base := substitute template [(.className, className a table), (.table, table)]
  ensureResolved migrationName (substitute base [(.schemaUp, ""), (.schemaDown, "")])

/-- The statements of a half have no part in its verdict. -/
theorem verdict_fillHalf (template wrapper text : String) (slot : Placeholder) (table : String) :
    verdict (fillHalf template wrapper text slot table) =
      checkHalf template wrapper slot table := by
  rw [fillHalf, verdict_bind_pure, verdict_unit, checkHalf]

/-- The fields of a schema have no part in the verdict on its bodies. -/
theorem verdict_bodies (source : Source) (schema : Schema) (keyword : String) :
    verdict (bodies source schema keyword) = checkBodies source schema.name keyword := by
  rw [bodies, checkBodies, verdict_bind]
  refine bind_congr fun r => ?_
  rw [verdict_bind]
  refine bind_congr fun wrapper => ?_
  -- Both halves go in after their own checks, and the second one waits for the first.
  rw [← verdict_fillHalf (wrapperName r.action) wrapper
    (Statement.block schema.fields r.up r.kind .closureBody)]
  refine verdict_bind_const fun up => ?_
  cases r.down with
  | dropTable => rfl
  | fields d =>
    rw [← verdict_fillHalf (wrapperName r.action) wrapper
      (Statement.block schema.fields d r.kind .closureBody)]
    exact verdict_bind_pure _ _

/-- The fields of a schema have no part in the verdict on its migration. -/
theorem verdict_classText (source : Source) (schema : Schema) (a : Action) :
    verdict (classText source schema a) = check source schema.name a := by
  rw [classText, check, ← verdict_bodies]
  refine verdict_bind_const fun b => ?_
  rw [verdict_bind]
  refine bind_congr fun template => ?_
  rw [verdict_bind_pure, verdict_unit]

end Migration

/-! ## Seeders -/

namespace Seeder

/-- The check on the way to a seeder. -/
def check (source : Source) (className : String) : Except Error Unit := do
  let template ← source.load seederName
  let base := substitute template [(.className, className)]
  ensureResolved seederName (substitute base [(.content, "")])

/-- The body of a seeder has no part in its verdict. -/
theorem verdict_classText (source : Source) (className content : String) :
    verdict (classText source className content) = check source className := by
  rw [classText, check, verdict_bind]
  refine bind_congr fun template => ?_
  rw [verdict_bind_pure, verdict_unit]

end Seeder

/-- What a class holds does not decide whether it can be generated. The migrations of two schemas of
one name, under the same action and the same templates of any source, both are generated or both
fail for the same reason, whatever their fields; and so do two seeders of one class, whatever their
bodies. -/
theorem alike_classText (source : Source) :
    (∀ (a : Action) (table : String) (fields fields' : List Field) (drop drop' : Bool),
      Alike (Migration.classText source ⟨table, fields, drop⟩ a)
        (Migration.classText source ⟨table, fields', drop'⟩ a)) ∧
    ∀ className content content' : String,
      Alike (Seeder.classText source className content)
        (Seeder.classText source className content') := by
  constructor
  · intro a table fields fields' drop drop'
    have hfirst := Migration.verdict_classText source ⟨table, fields, drop⟩ a
    have hsecond := Migration.verdict_classText source ⟨table, fields', drop'⟩ a
    exact .of_verdict (hfirst.trans hsecond.symm)
  · intro className content content'
    have hfirst := Seeder.verdict_classText source className content
    have hsecond := Seeder.verdict_classText source className content'
    exact .of_verdict (hfirst.trans hsecond.symm)

end SchemaForge
