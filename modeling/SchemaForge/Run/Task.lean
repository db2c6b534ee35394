import SchemaForge.Schema.Set
import SchemaForge.Seeder.Registry
import SchemaForge.Settings.Basic

/-!
# The plan of a run

A run is a list of tasks that depends on the settings and the schemas alone: tables are created
first, each with its seeder, then come the seeders that call them, then functions, triggers,
alterations and removals. Whether a task writes anything is decided when it is performed.
-/

namespace SchemaForge

/-- One step of a run. -/
inductive Task where
  /-- Something is told. -/
  | announce (message : String)
  /-- The migration of a schema under an action. -/
  | migration (action : Action) (schema : Schema)
  /-- A seeder with a body, in a directory. -/
  | seeder (dir : Path) (className content : String)
  /-- The application's own seeder is made to call the root seeder. -/
  | databaseSeeder

namespace Task

/-- What is told before the migration of a schema. -/
def heading (a : Action) (table : String) : String :=
  match a with
  | .create => "Processing " ++ table
  | .createFunction => "Processing functions for " ++ table
  | .createTrigger => "Processing triggers for " ++ table
  | .update => "Processing foreign keys for " ++ table
  | .remove => "Processing removals for " ++ table

/-- The tasks of one schema. -/
def ofSchema (s : Settings) (a : Action) (schema : Schema) : List Task :=
  [announce (heading a schema.name), migration a schema] ++
    (if a = .create ∧ s.seed then [seeder s.seedsDir (Seeder.className schema.name) ""] else [])

/-- The tasks of an action: those of its schemas, except for dropped ones. -/
def ofAction (s : Settings) (set : SchemaSet) (a : Action) : List Task :=
  (set.active a).flatMap (ofSchema s a)

/-- The registry of the seeders that a run generates. -/
def registry (s : Settings) (set : SchemaSet) : Seeder.Registry :=
  (set.active .create).foldl (fun r schema => r.register (Seeder.className schema.name))
    (.start s.seederClass)

/-- The tasks of the seeders that are not for one table. -/
def ofSeeders (s : Settings) (set : SchemaSet) : List Task :=
  let r := registry s set
  [announce ("Processing " ++ r.defaultClass), seeder s.seedsDir r.defaultClass "",
    announce ("Processing " ++ Seeder.rootClass), seeder s.seedsRoot Seeder.rootClass r.content,
    announce ("Processing " ++ Seeder.databaseClass), databaseSeeder]

/-- The tasks of a run, in order. -/
def plan (s : Settings) (set : SchemaSet) : List Task :=
  ofAction s set .create ++ (if s.seed then ofSeeders s set else []) ++
    [Action.createFunction, .createTrigger, .update, .remove].flatMap (ofAction s set)

end Task

end SchemaForge
