import Mathlib.Tactic.Common
import SchemaForge.Run.Execute

/-!
# The steps of a run

`Step` lists what a task can do to the state of a run, one constructor for each outcome, and
`perform_step` shows that it lists everything. A run of several tasks is a chain of steps
(`Steps`): the theorems about runs say what one step preserves and carry it along the chain. What a
run tells is left out of the state.
-/

namespace SchemaForge.Run

/-- What a run acts on: the disk, the number of attempted migrations and the summary so far. -/
structure State where
  /-- The disk. -/
  disk : Disk
  /-- How many migrations were attempted. -/
  attempts : Nat
  /-- What is done so far. -/
  summary : Summary

/-- The state of a run in progress. -/
def state (p : Progress) : State := ⟨p.disk, p.attempts, p.summary⟩

/-- The summary with one more file that is left alone. -/
def skipped (x : Summary) : Summary := { x with skipped := x.skipped + 1 }

/-- The summary with one more file. -/
def wrote (x : Summary) (f : GeneratedFile) : Summary := { x with written := x.written ++ [f] }

/-- The summary with one more migration that failed. -/
def failed (x : Summary) (f : Failure) : Summary := { x with failed := x.failed ++ [f] }

/-- The summary with one more seeder that failed. -/
def seederFailed (x : Summary) (f : SeederFailure) : Summary :=
  { x with seederFailures := x.seederFailures ++ [f] }

/-- The disk after a text is stored at a path; a dry run leaves the disk as it is. -/
def store (s : Settings) (d : Disk) (path : Path) (text : String) : Except StorageFault Disk :=
  if s.dryRun then .ok d else d.write path text

/-- The disk after a generated text is stored at a path, with the text, or why there is none. -/
def save (s : Settings) (d : Disk) (path : Path) (text : Except Error String) :
    Except Error (Disk × String) :=
  match text with
  | .error e => .error e
  | .ok text =>
    match store s d path text with
    | .ok d' => .ok (d', text)
    | .error fault => .error (.fileWrite path fault.message)

/-- The path of the migration of an action and table at a moment. -/
def migrationPath (s : Settings) (m : Moment) (a : Action) (table : String) : Path :=
  s.migrationsDir.join (Migration.fileName m a table)

/-- The path of the seeder that the application runs. -/
def databasePath (s : Settings) : Path := Seeder.pathIn s.seedsRoot Seeder.databaseClass

/-- What making a seeder can do. -/
inductive SeederStep (s : Settings) (dir : Path) (className content : String) :
    State → State → Prop where
  /-- There is something at the path of the seeder. -/
  | skipped (x : State) (h : x.disk.hasEntry (Seeder.pathIn dir className) = true) :
      SeederStep s dir className content x { x with summary := Run.skipped x.summary }
  /-- The seeder is written. -/
  | written (x : State) (d : Disk) (text : String)
      (h : x.disk.hasEntry (Seeder.pathIn dir className) = false)
      (hsave : save s x.disk (Seeder.pathIn dir className)
        (Seeder.classText (s.templates.source x.disk) className content) = .ok (d, text)) :
      SeederStep s dir className content x { x with
        disk := d
        summary := wrote x.summary ⟨Seeder.pathIn dir className, text, .seeder⟩ }
  /-- The seeder cannot be generated or written. -/
  | failed (x : State) (e : Error)
      (h : x.disk.hasEntry (Seeder.pathIn dir className) = false)
      (hsave : save s x.disk (Seeder.pathIn dir className)
        (Seeder.classText (s.templates.source x.disk) className content) = .error e) :
      SeederStep s dir className content x
        { x with summary := seederFailed x.summary ⟨className, e.message⟩ }

/-- What a task can do. -/
inductive Step (s : Settings) (start : Moment) : State → Task → State → Prop where
  /-- Something is told. -/
  | announce (x : State) (message : String) : Step s start x (.announce message) x
  /-- There is a migration of the action and table. -/
  | migrationSkipped (x : State) (a : Action) (schema : Schema)
      (h : findMigrations x.disk s.migrationsDir a schema.name ≠ []) :
      Step s start x (.migration a schema) { x with summary := skipped x.summary }
  /-- The migration is written. -/
  | migrationWritten (x : State) (a : Action) (schema : Schema) (m : Moment) (d : Disk)
      (text : String) (h : findMigrations x.disk s.migrationsDir a schema.name = [])
      (hm : start.after? x.attempts = some m)
      (hsave : save s x.disk (migrationPath s m a schema.name)
        (Migration.classText (s.templates.source x.disk) schema a) = .ok (d, text)) :
      Step s start x (.migration a schema) ⟨d, x.attempts + 1,
        wrote x.summary ⟨migrationPath s m a schema.name, text, .migration⟩⟩
  /-- The migration cannot be generated or written. -/
  | migrationFailed (x : State) (a : Action) (schema : Schema) (m : Moment) (e : Error)
      (h : findMigrations x.disk s.migrationsDir a schema.name = [])
      (hm : start.after? x.attempts = some m)
      (hsave : save s x.disk (migrationPath s m a schema.name)
        (Migration.classText (s.templates.source x.disk) schema a) = .error e) :
      Step s start x (.migration a schema) ⟨x.disk, x.attempts + 1,
        failed x.summary ⟨schema.name, a, e.message⟩⟩
  /-- A seeder is made. -/
  | seeder (x y : State) (dir : Path) (className content : String)
      (h : SeederStep s dir className content x y) :
      Step s start x (.seeder dir className content) y
  /-- The application has no seeder yet. -/
  | databaseMade (x y : State) (habsent : x.disk.hasEntry (databasePath s) = false)
      (h : SeederStep s s.seedsRoot Seeder.databaseClass (Seeder.call Seeder.rootClass) x y) :
      Step s start x .databaseSeeder y
  /-- The application's seeder cannot be read. -/
  | databaseUnreadable (x : State) (fault : StorageFault)
      (hpresent : x.disk.hasEntry (databasePath s) = true)
      (h : x.disk.read (databasePath s) = .error fault) :
      Step s start x .databaseSeeder { x with
        summary := seederFailed x.summary
          ⟨Seeder.databaseClass, (Error.fileRead (databasePath s) fault.message).message⟩ }
  /-- The application's seeder calls the root seeder already. -/
  | databaseCalls (x : State) (text : String)
      (hpresent : x.disk.hasEntry (databasePath s) = true)
      (h : x.disk.read (databasePath s) = .ok text) (hpatch : Seeder.patch text = .alreadyCalls) :
      Step s start x .databaseSeeder { x with summary := skipped x.summary }
  /-- The `run` method of the application's seeder is not found. -/
  | databaseLeft (x : State) (text : String)
      (hpresent : x.disk.hasEntry (databasePath s) = true)
      (h : x.disk.read (databasePath s) = .ok text) (hpatch : Seeder.patch text = .missingAnchor) :
      Step s start x .databaseSeeder x
  /-- The application's seeder is patched. -/
  | databasePatched (x : State) (text patched : String) (d : Disk)
      (hpresent : x.disk.hasEntry (databasePath s) = true)
      (h : x.disk.read (databasePath s) = .ok text)
      (hpatch : Seeder.patch text = .patched patched)
      (hstore : store s x.disk (databasePath s) patched = .ok d) :
      Step s start x .databaseSeeder { x with disk := d }
  /-- The patched text cannot be written. -/
  | databaseUnwritable (x : State) (text patched : String) (fault : StorageFault)
      (hpresent : x.disk.hasEntry (databasePath s) = true)
      (h : x.disk.read (databasePath s) = .ok text)
      (hpatch : Seeder.patch text = .patched patched)
      (hstore : store s x.disk (databasePath s) patched = .error fault) :
      Step s start x .databaseSeeder { x with
        summary := seederFailed x.summary
          ⟨Seeder.databaseClass, (Error.fileWrite (databasePath s) fault.message).message⟩ }

variable {s : Settings} {start : Moment}

/-! ## What a task does -/

/-- Writing a generated file saves its text and lists the file. -/
theorem write_generated (s : Settings) (p : Progress) (dir : Path) (name : String)
    (kind : FileKind) (text : Except Error String) :
    match save s p.disk (dir.join name) text with
    | .error e => (text.map fun text => (⟨⟨name⟩, text, kind⟩ : GeneratedFile)) >>=
        p.write s.dryRun dir = .error e
    | .ok (d, text') => ∃ p', (text.map fun text => (⟨⟨name⟩, text, kind⟩ : GeneratedFile)) >>=
        p.write s.dryRun dir = .ok p' ∧
        state p' = ⟨d, p.attempts, wrote p.summary ⟨dir.join name, text', kind⟩⟩ := by
  cases text with
  | error e => rfl
  | ok text =>
    simp only [save, store, Except.map, bind, Except.bind, Progress.write]
    cases hdry : s.dryRun with
    | true => exact ⟨_, rfl, rfl⟩
    | false =>
      cases hwrite : p.disk.write (dir.join name) text with
      | error fault => simp
      | ok d => exact ⟨_, rfl, rfl⟩

/-- The progress when a migration has taken its moment and its bodies are rendered. -/
def begun (s : Settings) (p : Progress) (a : Action) (schema : Schema) : Progress :=
  let p := { p with attempts := p.attempts + 1 }
  match Migration.bodies (s.templates.source p.disk) schema a.keyword with
  | .ok _ => p.tell (.log ⟨.debug, .rendering, "synthesized migration bodies",
      [("table", schema.name), ("action", a.keyword),
        ("fields", Decimal.natText schema.fields.length)]⟩)
  | .error _ => p

/-- A migration that has begun has changed nothing but the number of attempts. -/
theorem state_begun (s : Settings) (p : Progress) (a : Action) (schema : Schema) :
    state (begun s p a schema) = ⟨p.disk, p.attempts + 1, p.summary⟩ := by
  rw [begun]
  dsimp only
  split <;> rfl

/-- An attempt writes the migration once it has begun. -/
theorem attempt_eq (s : Settings) (p : Progress) (a : Action) (schema : Schema) (m : Moment) :
    attempt s p a schema m =
      match Migration.generate (s.templates.source p.disk) schema a m >>=
        (begun s p a schema).write s.dryRun s.migrationsDir with
      | .ok q => q.tell (.info "Migration created successfully.")
      | .error e => (begun s p a schema).fail a schema.name e := rfl

/-- An attempt at a migration is a step. -/
theorem attempt_step {p : Progress} {a : Action} {schema : Schema} {m : Moment}
    (h : findMigrations p.disk s.migrationsDir a schema.name = [])
    (hm : start.after? p.attempts = some m) :
    Step s start (state p) (.migration a schema) (state (attempt s p a schema m)) := by
  have hbegun := state_begun s p a schema
  rw [attempt_eq, Migration.generate]
  -- Nothing else is needed of the progress when the migration has begun.
  generalize begun s p a schema = p' at hbegun ⊢
  obtain ⟨hdisk, hattempts, hsummary⟩ : p'.disk = p.disk ∧ p'.attempts = p.attempts + 1 ∧
      p'.summary = p.summary := by simpa [state] using hbegun
  have hwrite := write_generated s p' s.migrationsDir (Migration.fileName m a schema.name)
    .migration (Migration.classText (s.templates.source p.disk) schema a)
  rw [hdisk, hattempts, hsummary] at hwrite
  cases hsave : save s p.disk (s.migrationsDir.join (Migration.fileName m a schema.name))
    (Migration.classText (s.templates.source p.disk) schema a) with
  | error e =>
    rw [hsave] at hwrite
    rw [hwrite]
    have hfail : state (p'.fail a schema.name e) =
        ⟨p.disk, p.attempts + 1, failed p.summary ⟨schema.name, a, e.message⟩⟩ := by
      rw [← hdisk, ← hattempts, ← hsummary]
      rfl
    rw [hfail]
    exact .migrationFailed (state p) a schema m e h hm hsave
  | ok result =>
    obtain ⟨d, text⟩ := result
    rw [hsave] at hwrite
    obtain ⟨q, hq, hstate⟩ := hwrite
    rw [hq]
    have hstep := Step.migrationWritten (s := s) (state p) a schema m d text h hm hsave
    exact hstate ▸ hstep

/-- Making a seeder is a step of a seeder. -/
theorem makeSeeder_step (p : Progress) (dir : Path) (className content : String) :
    SeederStep s dir className content (state p)
      (state (makeSeeder s p dir className content)) := by
  unfold makeSeeder
  cases hentry : p.disk.hasEntry (Seeder.pathIn dir className) with
  | true => exact .skipped (state p) hentry
  | false =>
    have hwrite := write_generated s p dir (Seeder.fileName className) .seeder
      (Seeder.classText (s.templates.source p.disk) className content)
    simp only [Bool.false_eq_true, if_false, Seeder.generate]
    cases hsave : save s p.disk (dir.join (Seeder.fileName className))
      (Seeder.classText (s.templates.source p.disk) className content) with
    | error e =>
      rw [hsave] at hwrite
      rw [hwrite]
      exact .failed (state p) e hentry hsave
    | ok result =>
      obtain ⟨d, text⟩ := result
      rw [hsave] at hwrite
      obtain ⟨q, hq, hstate⟩ := hwrite
      rw [hq]
      have hstep : SeederStep s dir className content (state p)
          ⟨d, p.attempts, wrote p.summary ⟨Seeder.pathIn dir className, text, .seeder⟩⟩ :=
        .written (state p) d text hentry hsave
      exact hstate ▸ hstep

/-- Writing or patching the application's seeder is a step. -/
theorem patchSeeder_step (p : Progress) :
    Step s start (state p) .databaseSeeder (state (patchSeeder s p)) := by
  unfold patchSeeder
  dsimp only
  cases hentry : p.disk.hasEntry (Seeder.pathIn s.seedsRoot Seeder.databaseClass) with
  | false => exact .databaseMade (state p) _ hentry (makeSeeder_step p _ _ _)
  | true =>
    simp only [if_true]
    cases hread : p.disk.read (Seeder.pathIn s.seedsRoot Seeder.databaseClass) with
    | error fault => exact .databaseUnreadable (state p) fault hentry hread
    | ok text =>
      dsimp only
      cases hpatch : Seeder.patch text with
      | alreadyCalls => exact .databaseCalls (state p) text hentry hread hpatch
      | missingAnchor => exact .databaseLeft (state p) text hentry hread hpatch
      | patched patched =>
        simp only [replaceSeeder]
        -- A dry run goes on as if the patched text were written.
        cases hdry : s.dryRun with
        | true =>
          exact .databasePatched (state p) text patched p.disk hentry hread hpatch
            (by simp [store, hdry, state])
        | false =>
          cases hwrite : p.disk.write (Seeder.pathIn s.seedsRoot Seeder.databaseClass) patched with
          | error fault =>
            exact .databaseUnwritable (state p) text patched fault hentry hread hpatch
              (by simpa [store, hdry, state, databasePath] using hwrite)
          | ok d =>
            exact .databasePatched (state p) text patched d hentry hread hpatch
              (by simpa [store, hdry, state, databasePath] using hwrite)

/-- Whatever a task does is a step. -/
theorem perform_step {p p' : Progress} {t : Task} (h : perform s start p t = .ok p') :
    Step s start (state p) t (state p') := by
  cases t with
  | announce message =>
    cases h
    exact .announce (state p) message
  | migration a schema =>
    rw [perform] at h
    split at h
    next found more hfound =>
      cases h
      exact .migrationSkipped (state p) a schema (by simp [state, hfound])
    next hnone =>
      split at h
      next m hm =>
        cases h
        exact attempt_step hnone hm
      next => cases h
  | seeder dir className content =>
    cases h
    exact .seeder (state p) _ dir className content (makeSeeder_step p dir className content)
  | databaseSeeder =>
    cases h
    exact patchSeeder_step p

/-- Only a migration can need a moment after the end of the calendar, and then nothing is done. -/
theorem perform_error {p p' : Progress} {t : Task} (h : perform s start p t = .error p') :
    p' = p ∧ start.after? p.attempts = none := by
  cases t with
  | announce message => cases h
  | migration a schema =>
    rw [perform] at h
    split at h
    next => cases h
    next =>
      split at h
      next => cases h
      next hm => exact ⟨by cases h; rfl, hm⟩
  | seeder dir className content => cases h
  | databaseSeeder => cases h

end SchemaForge.Run
