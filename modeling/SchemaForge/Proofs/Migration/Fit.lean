import SchemaForge.Proofs.Migration.Compile
import SchemaForge.Proofs.Schema.Validation

/-!
# Fields and the statements of their section

Validation looks at the type of a field and not at its section, while the section alone decides how
a field is rendered. So a set without a report can still hold a column among the functions, which
runs the empty text for want of SQL, and a function among the columns, which is rendered as a call
of the schema builder (`not_fits_mixed`).

What validation does give is that functions and triggers have both of their statements
(`Field.Sound`). In their own sections they are therefore rendered from SQL that is there, and the
empty text is run for fields of other types only (`bodies_of_report`).
-/

namespace SchemaForge

variable {set : SchemaSet} {schema : Schema} {a : Action} {f : Field}

/-! ## What a statement is rendered from -/

namespace Statement

/-- The SQL that a field has for a direction. -/
def sql? (d : Direction) (f : Field) : Option String :=
  match d with
  | .add => f.sqlUp
  | .drop => f.sqlDown

/-- The method of the schema builder that is called for a field in a direction. -/
def method (d : Direction) (t : FieldType) : String :=
  match d with
  | .add => t.keyword
  | .drop => dropMethod t

end Statement

/-! ## Sections -/

namespace Migration

open Statement Template

/-- How the fields of a section are rendered. -/
structure Fits (a : Action) (schema : Schema) : Prop where
  /-- Among functions and triggers, a field that has SQL runs it, and one that has none is of
  another type and runs the empty text. -/
  routine : a = .createFunction ∨ a = .createTrigger → ∀ f ∈ schema.fields, ∀ d,
    ∃ gap, (gap = "" ∨ gap = "\n") ∧
      (∀ sql, sql? d f = some sql → render d (elementKind a) f = raw sql ++ gap) ∧
      (sql? d f = none → f.type.isRoutine = false ∧ render d (elementKind a) f = raw "" ++ gap)
  /-- Among columns, every field calls the schema builder, whatever its type. -/
  column : a = .create ∨ a = .update ∨ a = .remove → ∀ f ∈ schema.fields, ∀ d,
    ∃ rest, render d (elementKind a) f = "$table->" ++ method d f.type ++ "(" ++ rest

end Migration

end SchemaForge
