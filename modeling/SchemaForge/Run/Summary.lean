import SchemaForge.Decimal.Integer
import SchemaForge.Migration.Class

/-!
# Summary of a run

What a run wrote, skipped and failed to generate, and the box in which this is shown at its end.
-/

namespace SchemaForge

/-- A migration that could not be generated. -/
structure Failure where
  /-- The table. -/
  table : String
  /-- The action. -/
  action : Action
  /-- Why it could not be generated. -/
  message : String
deriving DecidableEq, Repr

/-- A seeder that could not be written or patched. -/
structure SeederFailure where
  /-- The class of the seeder. -/
  className : String
  /-- Why it could not be written or patched. -/
  message : String
deriving DecidableEq, Repr

/-- The outcome of a run. -/
structure Summary where
  /-- The files that are written, or would be in a dry run. -/
  written : List GeneratedFile := []
  /-- How many files are left alone because they exist. -/
  skipped : Nat := 0
  /-- The migrations that failed. -/
  failed : List Failure := []
  /-- The seeders that failed. -/
  seederFailures : List SeederFailure := []
  /-- How many schemas are invalid. -/
  warnings : Nat := 0
  /-- Whether nothing is really written. -/
  dryRun : Bool := false
deriving DecidableEq, Repr

namespace Summary

/-- How many files of a kind are written. -/
def count (s : Summary) (kind : FileKind) : Nat := s.written.countP fun f => f.kind = kind

/-- How many migrations are written. -/
def migrations (s : Summary) : Nat := s.count .migration

/-- How many seeders are written. -/
def seeders (s : Summary) : Nat := s.count .seeder

/-- How many migrations and seeders failed. -/
def failures (s : Summary) : Nat := s.failed.length + s.seederFailures.length

/-- Whether nothing failed. -/
def isSuccess (s : Summary) : Bool := s.failures == 0

/-- A text with spaces after it up to a width. -/
def padded (width : Nat) (text : String) : String :=
  text ++ String.ofList (List.replicate (width - text.length) ' ')

/-- A line between the edges of the box. -/
def boxLine (label : String) (value : String) : String :=
  "║  " ++ label ++ padded (48 - label.length) value ++ "║\n"

/-- A horizontal edge of the box between two corners. -/
def boxEdge (left right : String) : String :=
  left ++ String.ofList (List.replicate 50 '═') ++ right ++ "\n"

/-- The box that shows the summary. -/
def display (s : Summary) : String :=
  boxEdge "╔" "╗" ++
  boxLine "" (if s.dryRun then "Dry Run Complete" else "Generation Complete") ++
  boxEdge "╠" "╣" ++
  boxLine "Migrations:  " (Decimal.natText s.migrations) ++
  boxLine "Seeders:     " (Decimal.natText s.seeders) ++
  boxLine "Skipped:     " (Decimal.natText s.skipped) ++
  boxLine "Failed:      " (Decimal.natText s.failures) ++
  boxLine "Warnings:    " (Decimal.natText s.warnings) ++
  boxEdge "╚" "╝"

end Summary

end SchemaForge
