import SchemaForge.Seeder.Registry
import SchemaForge.Text.Search

/-!
# Patching the application's seeder

The application's own seeder is made to call the root seeder, by one line at the top of its `run`
method. A text that has the call already, or in which the opening of the method is not found, is
left alone.
-/

namespace SchemaForge.Seeder

/-- What becomes of the application's seeder. -/
inductive Patch where
  /-- It calls the root seeder already. -/
  | alreadyCalls
  /-- It gets a new text. -/
  | patched (text : String)
  /-- Its `run` method is not found. -/
  | missingAnchor
deriving DecidableEq, Repr

/-- The opening of a `run` method. -/
def runAnchor : String := "run()\n    \x7b\n"

/-- The line that calls the root seeder. -/
def callLine : String := bodyIndent ++ call rootClass ++ "\n"

/-- What becomes of the application's seeder with the given text. -/
def patch (text : String) : Patch :=
  if Text.occurs (call rootClass).toList text.toList then .alreadyCalls
  else
    match Text.cut runAnchor.toList text.toList with
    | some (before, after) =>
      .patched (String.ofList before ++ runAnchor ++ callLine ++ String.ofList after)
    | none => .missingAnchor

end SchemaForge.Seeder
