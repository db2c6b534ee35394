import SchemaForge.Run.Event
import SchemaForge.Run.Summary
import SchemaForge.Run.Task
import SchemaForge.Schema.Validation
import SchemaForge.Seeder.Patch

/-!
# Running the plan

A run first reports invalid schemas, then makes the directories it needs, then performs its tasks
one by one. A migration that exists already, under whatever stamp, is skipped, and so is a seeder;
each migration that is attempted takes the next second. A failed task is recorded and the run goes
on. Only a directory that cannot be made stops it, and the end of the calendar.

`execute` is a pure function of the settings, the start time, the schemas and the disk. A dry run
gives the disk back as it was.
-/

namespace SchemaForge

/-- How far a run has come. -/
structure Progress where
  /-- The disk as the run has left it so far. -/
  disk : Disk
  /-- How many migrations were attempted. -/
  attempts : Nat := 0
  /-- What is done so far. -/
  summary : Summary := {}
  /-- What was told so far, in order. -/
  events : List Event := []

/-- The moment some seconds later, if the calendar reaches so far. -/
def Moment.after? (m : Moment) : Nat → Option Moment
  | 0 => some m
  | k + 1 => (m.after? k).bind Moment.next?

namespace Progress

/-- The progress after something is told. -/
def tell (p : Progress) (e : Event) : Progress := { p with events := p.events ++ [e] }

/-- The progress after a log record of the run. -/
def log (p : Progress) (level : Level) (message : String) (fields : List (String × String)) :
    Progress :=
  p.tell (.log ⟨level, .run, message, fields⟩)

/-- The progress after something is told to exist already. -/
def skip (p : Progress) (message : String) : Progress :=
  { p.tell (.comment message) with summary.skipped := p.summary.skipped + 1 }

/-- The progress after a migration failed. -/
def fail (p : Progress) (a : Action) (table : String) (e : Error) : Progress :=
  let p := (p.log .error "migration failed"
    [("table", table), ("action", a.keyword), ("error", e.message)]).tell
      (.failure (a.keyword ++ " " ++ table ++ ": " ++ e.message))
  { p with summary.failed := p.summary.failed ++ [⟨table, a, e.message⟩] }

/-- The progress after a seeder failed. -/
def failSeeder (p : Progress) (className : String) (e : Error) : Progress :=
  let p := (p.log .error "seeder failed" [("class", className), ("error", e.message)]).tell
      (.failure (className ++ ": " ++ e.message))
  { p with summary.seederFailures := p.summary.seederFailures ++ [⟨className, e.message⟩] }

/-- The progress after a file is written into a directory, or would be in a dry run. -/
def write (p : Progress) (dryRun : Bool) (dir : Path) (file : GeneratedFile) :
    Except Error Progress :=
  let path := dir.join file.path.text
  let fields := [("path", path.text), ("kind", Text.quoted file.kind.label)]
  let record := fun (p : Progress) =>
    { p with summary.written := p.summary.written ++ [{ file with path }] }
  if dryRun then
    .ok (record ((p.tell (.item path.text)).log .info "would write file" fields))
  else
    match p.disk.write path file.content with
    | .ok disk => .ok (record (({ p with disk }).log .info "wrote file" fields))
    | .error fault => .error (.fileWrite path fault.message)

end Progress

/-- The migrations of an action and table anywhere in a directory. -/
def findMigrations (d : Disk) (dir : Path) (a : Action) (table : String) : List Path :=
  (d.filesUnder dir).filterMap fun (place, names) =>
    if place.getLast?.any fun name => Migration.isFor name a table then
      some (names.foldl Path.join dir)
    else none

namespace Run

/-- Makes a directory unless it exists or the run is dry. -/
def makeDirectory (dryRun : Bool) (d : Disk) (dir : Path) : Disk × Except Error Unit :=
  if dryRun ∨ d.hasDirectory dir then (d, .ok ())
  else
    match d.makeDirs dir with
    | (d', none) => (d', .ok ())
    | (d', some fault) => (d', .error (.directoryCreate dir fault.message))

/-- Makes the directories that the settings need, in order, up to the first that cannot be made. -/
def makeDirectories (dryRun : Bool) : Disk → List Path → Disk × Except Error Unit
  | d, [] => (d, .ok ())
  | d, dir :: rest =>
    match makeDirectory dryRun d dir with
    | (d', .ok ()) => makeDirectories dryRun d' rest
    | (d', .error e) => (d', .error e)

/-- The directories that the settings need. -/
def directories (s : Settings) : List Path :=
  s.migrationsDir :: (if s.seed then [s.seedsDir] else [])

/-- The progress after a migration is attempted at a moment. -/
def attempt (s : Settings) (p : Progress) (a : Action) (schema : Schema) (m : Moment) :
    Progress :=
  let source := s.templates.source p.disk
  let p := { p with attempts := p.attempts + 1 }
  let p :=
    match Migration.bodies source schema a.keyword with
    | .ok _ => p.tell (.log ⟨.debug, .rendering, "synthesized migration bodies",
        [("table", schema.name), ("action", a.keyword),
          ("fields", Decimal.natText schema.fields.length)]⟩)
    | .error _ => p
  match Migration.generate source schema a m >>= p.write s.dryRun s.migrationsDir with
  | .ok p => p.tell (.info "Migration created successfully.")
  | .error e => p.fail a schema.name e

/-- The progress after a seeder is written, unless there is something at its path. -/
def makeSeeder (s : Settings) (p : Progress) (dir : Path) (className content : String) :
    Progress :=
  if p.disk.hasEntry (Seeder.pathIn dir className) then p.skip "Seeder already exists."
  else
    match Seeder.generate (s.templates.source p.disk) className content >>=
        p.write s.dryRun dir with
    | .ok p => p.tell (.info "Seeder created successfully.")
    | .error e => p.failSeeder className e

/-- The progress after the application's seeder at a path gets a new text. -/
def replaceSeeder (s : Settings) (p : Progress) (path : Path) (text : String) : Progress :=
  if s.dryRun then (p.tell (.item path.text)).tell (.info "Updated seeder.")
  else
    match p.disk.write path text with
    | .ok disk => ({ p with disk }).tell (.info "Updated seeder.")
    | .error fault => p.failSeeder Seeder.databaseClass (.fileWrite path fault.message)

/-- The progress after the application's seeder is written or patched. -/
def patchSeeder (s : Settings) (p : Progress) : Progress :=
  let path := Seeder.pathIn s.seedsRoot Seeder.databaseClass
  if p.disk.hasEntry path then
    match p.disk.read path with
    | .error fault => p.failSeeder Seeder.databaseClass (.fileRead path fault.message)
    | .ok text =>
      match Seeder.patch text with
      | .alreadyCalls => p.skip "Seeder already exists."
      | .missingAnchor =>
        (p.log .warn "no run() method to patch" [("path", path.text)]).tell
          (.comment "Seeder has no run() method; left unchanged.")
      | .patched text => replaceSeeder s p path text
  else
    makeSeeder s p s.seedsRoot Seeder.databaseClass (Seeder.call Seeder.rootClass)

/-- The progress after a task; the progress so far comes back as an error if the task would need a
moment after the end of the calendar. -/
def perform (s : Settings) (start : Moment) (p : Progress) : Task → Except Progress Progress
  | .announce message => .ok (p.tell (.info message))
  | .migration a schema =>
    match findMigrations p.disk s.migrationsDir a schema.name with
    | found :: _ =>
      .ok ((p.log .debug "migration exists" [("path", found.text)]).skip
        "Migration already exists.")
    | [] =>
      match start.after? p.attempts with
      | some m => .ok (attempt s p a schema m)
      | none => .error p
  | .seeder dir className content => .ok (makeSeeder s p dir className content)
  | .databaseSeeder => .ok (patchSeeder s p)

/-- What the report of invalid schemas tells. -/
def warningEvents (set : SchemaSet) : List Event :=
  set.report.flatMap fun invalid =>
    invalid.errors.map fun e =>
      .log ⟨.warn, .run, e.message, [("table", invalid.name), ("action", invalid.action.keyword)]⟩

/-- The progress before any directory is made. -/
def opening (s : Settings) (set : SchemaSet) (d : Disk) : Progress where
  disk := d
  summary := { warnings := set.report.length, dryRun := s.dryRun }
  events := .log ⟨.debug, .run, "template source selected",
    [("templates", s.templates.describe)]⟩ :: warningEvents set

/-- How a run ends. -/
inductive Ending where
  /-- All tasks are done. -/
  | finished (summary : Summary)
  /-- A directory could not be made. -/
  | refused (error : Error)
  /-- A migration would need a moment after the end of the calendar. -/
  | outOfCalendar

/-- What a run leaves behind. -/
structure Outcome where
  /-- The disk after the run. -/
  disk : Disk
  /-- What the run told, in order. -/
  events : List Event
  /-- How the run ended. -/
  ending : Ending

/-- Runs the plan of the settings for a set of schemas on a disk. -/
def execute (s : Settings) (start : Moment) (set : SchemaSet) (d : Disk) : Outcome :=
  let p := opening s set d
  match makeDirectories s.dryRun d (directories s) with
  | (d', .error e) => ⟨d', p.events, .refused e⟩
  | (d', .ok ()) =>
    match (Task.plan s set).foldlM (perform s start) { p with disk := d' } with
    | .ok p => ⟨p.disk, (p.tell (.info "Finished.")).events, .finished p.summary⟩
    | .error p => ⟨p.disk, p.events, .outOfCalendar⟩

end Run

end SchemaForge
