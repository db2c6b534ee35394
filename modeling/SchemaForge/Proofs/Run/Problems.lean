import SchemaForge.Proofs.Migration.Verdict
import SchemaForge.Proofs.Run.Completion

/-!
# What a run does about problems

A task that meets a problem does not stop the run. What the summary gets from a task is its
`record`, which is read off the state at its turn: nothing, a file that is left alone, a file that
is written, or the problem (`Step.adds`). `Chronicle` says of a whole run that its summary lists the
records of its turns, in order and nothing else, that no migration is passed over, and that its
problems are those of templates and files (`Reaches.chronicle`).

So the only errors that a run ends with are those of directories, and they come before the first
task: nothing but directories is made by then (`execute_problems`).
-/

namespace SchemaForge

open Template

/-- A template is missing, a token of it is left over, or a file cannot be read or written. -/
def Error.isOfTask : Error → Bool
  | .templateNotFound .. | .unresolvedPlaceholder .. | .fileRead .. | .fileWrite .. => true
  | _ => false

/-! ## Problems of templates -/

/-- A program in two parts fails as the first part does, or as the second one after it. -/
theorem bind_eq_error_iff {α β : Type} {x : Except Error α} {f : α → Except Error β} {e : Error} :
    (x >>= f) = .error e ↔ x = .error e ∨ ∃ value, x = .ok value ∧ f value = .error e := by
  cases x with
  | error e' =>
    constructor
    · intro h
      cases h
      exact .inl rfl
    · rintro (h | ⟨value, hvalue, -⟩)
      · cases h
        rfl
      · cases hvalue
  | ok value =>
    constructor
    · exact fun h => .inr ⟨value, rfl, h⟩
    · rintro (h | ⟨_, hvalue, h⟩)
      · cases h
      · exact Except.ok.inj hvalue ▸ h

/-- A text is refused for its tokens only. -/
theorem Template.isOfTask_of_ensureResolved {template text : String} {e : Error}
    (h : ensureResolved template text = .error e) : e.isOfTask = true := by
  rw [ensureResolved] at h
  split at h
  · cases h
  · cases h
    rfl

/-- A template that is not there is missing or cannot be read. -/
theorem Template.isOfTask_of_load {origin : Origin} {d : Disk} {name : String} {e : Error}
    (h : (origin.source d).load name = .error e) : e.isOfTask = true := by
  cases origin with
  | builtin =>
    simp only [Origin.source, Source.builtin] at h
    split at h <;> cases h
    rfl
  | directory root =>
    simp only [Origin.source, Source.directory] at h
    split at h <;> cases h <;> rfl

/-- A migration that cannot be generated fails because of a template. -/
theorem Migration.isOfTask_of_classText {origin : Origin} {d : Disk} {schema : Schema} {a : Action}
    {e : Error} (h : classText (origin.source d) schema a = .error e) : e.isOfTask = true := by
  -- The verdict is that of the checks alone, which have no fields and no statements in them.
  have hcheck : check (origin.source d) schema.name a = .error e := by
    rw [← verdict_classText, h]
    rfl
  simp only [check, checkBodies, resolve_keyword, checkHalf, bind_eq_error_iff, Except.ok.injEq,
    reduceCtorEq, false_or, exists_eq_left'] at hcheck
  rcases hcheck with (hwrapper | ⟨wrapper, -, hup | ⟨-, -, hdown⟩⟩) |
    ⟨-, -, htemplate | ⟨template, -, hresolved⟩⟩
  · rw [Source.wrapper] at hwrapper
    cases hload : (origin.source d).load (wrapperName a) with
    | ok text =>
      rw [hload] at hwrapper
      cases hwrapper
    | error e' =>
      rw [hload] at hwrapper
      cases hwrapper
      exact isOfTask_of_load hload
  · exact isOfTask_of_ensureResolved hup
  · split at hdown
    · exact isOfTask_of_ensureResolved hdown
    · cases hdown
  · exact isOfTask_of_load htemplate
  · exact isOfTask_of_ensureResolved hresolved

/-- A seeder that cannot be generated fails because of a template. -/
theorem Seeder.isOfTask_of_classText {origin : Origin} {d : Disk} {className content : String}
    {e : Error} (h : classText (origin.source d) className content = .error e) :
    e.isOfTask = true := by
  have hcheck : check (origin.source d) className = .error e := by
    rw [← verdict_classText _ _ content, h]
    rfl
  simp only [check, bind_eq_error_iff] at hcheck
  rcases hcheck with htemplate | ⟨template, -, hresolved⟩
  · exact isOfTask_of_load htemplate
  · exact isOfTask_of_ensureResolved hresolved

namespace Run

variable {s : Settings} {start : Moment} {set : SchemaSet} {d : Disk} {x y : State} {t : Task}
  {done : List Task} {p : Progress} {turns : List (Task × State)} {summary : Summary}

/-! ## Records -/

/-- What a run records of a task. -/
inductive Record where
  /-- Nothing: something was told or patched, or nothing was there to patch. -/
  | nothing
  /-- A file is left alone. -/
  | left
  /-- A file is written. -/
  | file (f : GeneratedFile)
  /-- There is a problem. -/
  | problem (e : Error)

namespace Record

/-- The record of saving a generated text at a path. -/
def ofSaved (path : Path) (kind : FileKind) : Except Error (Disk × String) → Record
  | .ok (_, text) => .file ⟨path, text, kind⟩
  | .error e => .problem e

/-- Whether a file is left alone. -/
def isLeft : Record → Bool
  | left => true
  | _ => false

/-- The file that is written. -/
def file? : Record → Option GeneratedFile
  | file f => some f
  | _ => none

/-- The problem. -/
def problem? : Record → Option Error
  | problem e => some e
  | _ => none

end Record

/-- The record of a migration. -/
def migrationRecord (s : Settings) (start : Moment) (x : State) (a : Action) (schema : Schema) :
    Record :=
  match findMigrations x.disk s.migrationsDir a schema.name, start.after? x.attempts with
  | _ :: _, _ => .left
  | [], none => .nothing
  | [], some m =>
    .ofSaved (migrationPath s m a schema.name) .migration
      (save s x.disk (migrationPath s m a schema.name)
        (Migration.classText (s.templates.source x.disk) schema a))

/-- The record of a seeder. -/
def seederRecord (s : Settings) (d : Disk) (dir : Path) (className content : String) : Record :=
  let path := Seeder.pathIn dir className
  if d.hasEntry path then .left
  else .ofSaved path .seeder
    (save s d path (Seeder.classText (s.templates.source d) className content))

/-- The record of the application's seeder where there is one. -/
def patchRecord (s : Settings) (d : Disk) : Record :=
  match d.read (databasePath s) with
  | .error fault => .problem (.fileRead (databasePath s) fault.message)
  | .ok text =>
    match Seeder.patch text with
    | .alreadyCalls => .left
    | .missingAnchor => .nothing
    | .patched patched =>
      match store s d (databasePath s) patched with
      | .ok _ => .nothing
      | .error fault => .problem (.fileWrite (databasePath s) fault.message)

/-- The record of a task at its turn. -/
def record (s : Settings) (start : Moment) (x : State) : Task → Record
  | .announce _ => .nothing
  | .migration a schema => migrationRecord s start x a schema
  | .seeder dir className content => seederRecord s x.disk dir className content
  | .databaseSeeder =>
    if x.disk.hasEntry (databasePath s) then patchRecord s x.disk
    else seederRecord s x.disk s.seedsRoot Seeder.databaseClass (Seeder.call Seeder.rootClass)

/-- The failure that is listed if a task is a migration and has a problem. -/
def failure? (t : Task) (r : Record) : Option Failure :=
  (migrationOf? t).bind fun (a, schema) => r.problem?.map fun e => ⟨schema.name, a, e.message⟩

/-- The failure that is listed if a task makes a seeder and has a problem. -/
def seederFailure? (s : Settings) (t : Task) (r : Record) : Option SeederFailure :=
  (seederOf? s t).bind fun (_, className) => r.problem?.map fun e => ⟨className, e.message⟩

/-- A summary lists the record of a task in addition to what another one lists. -/
structure Adds (s : Settings) (t : Task) (r : Record) (before after : Summary) : Prop where
  /-- A file that is written is listed. -/
  written : after.written = before.written ++ r.file?.toList
  /-- A file that is left alone is counted. -/
  skipped : after.skipped = before.skipped + r.isLeft.toNat
  /-- The failure of a migration is listed. -/
  failed : after.failed = before.failed ++ (failure? t r).toList
  /-- The failure of a seeder is listed. -/
  seederFailures : after.seederFailures = before.seederFailures ++ (seederFailure? s t r).toList

namespace Adds

/-- Nothing is added. -/
theorem nothing (s : Settings) (t : Task) (summary : Summary) :
    Adds s t .nothing summary summary := by
  constructor <;> simp [Record.file?, Record.isLeft, failure?, seederFailure?, Record.problem?]

/-- A file that is left alone is added. -/
theorem left (s : Settings) (t : Task) (summary : Summary) :
    Adds s t .left summary (Run.skipped summary) := by
  constructor <;>
    simp [Run.skipped, Record.file?, Record.isLeft, failure?, seederFailure?, Record.problem?]

/-- A file that is written is added. -/
theorem file (s : Settings) (t : Task) (summary : Summary) (f : GeneratedFile) :
    Adds s t (.file f) summary (wrote summary f) := by
  constructor <;>
    simp [wrote, Record.file?, Record.isLeft, failure?, seederFailure?, Record.problem?]

/-- The failure of a migration is added. -/
theorem migrationProblem (s : Settings) (a : Action) (schema : Schema) (summary : Summary)
    (e : Error) : Adds s (.migration a schema) (.problem e) summary
      (Run.failed summary ⟨schema.name, a, e.message⟩) := by
  constructor <;>
    simp [Run.failed, Record.file?, Record.isLeft, failure?, seederFailure?, Record.problem?,
      migrationOf?, seederOf?]

/-- The failure of a seeder is added. -/
theorem seederProblem {dir : Path} {className : String} (ht : seederOf? s t = some (dir, className))
    (summary : Summary) (e : Error) :
    Adds s t (.problem e) summary (seederFailed summary ⟨className, e.message⟩) := by
  have hmigration : migrationOf? t = none := by
    cases t <;> first | rfl | cases ht
  constructor <;>
    simp [seederFailed, Record.file?, Record.isLeft, failure?, seederFailure?, Record.problem?,
      hmigration, ht]

end Adds

/-- Making a seeder adds its record. -/
theorem SeederStep.adds {dir : Path} {className content : String}
    (ht : seederOf? s t = some (dir, className)) (h : SeederStep s dir className content x y) :
    Adds s t (seederRecord s x.disk dir className content) x.summary y.summary := by
  unfold seederRecord
  cases h with
  | skipped hentry =>
    rw [if_pos hentry]
    exact .left s t x.summary
  | written d text hnone hsave =>
    rw [if_neg (by simp [hnone]), hsave]
    exact .file s t x.summary _
  | failed e hnone hsave =>
    rw [if_neg (by simp [hnone]), hsave]
    exact .seederProblem ht x.summary e

/-- A migration that is found is left alone. -/
theorem migrationRecord_of_found {a : Action} {schema : Schema}
    (h : findMigrations x.disk s.migrationsDir a schema.name ≠ []) :
    migrationRecord s start x a schema = .left := by
  unfold migrationRecord
  split
  · rfl
  next hnone hm => exact absurd hnone h
  next hnone hm => exact absurd hnone h

/-- A migration that is not found is saved, or there is a problem. -/
theorem migrationRecord_of_stamp {a : Action} {schema : Schema} {m : Moment}
    (h : findMigrations x.disk s.migrationsDir a schema.name = [])
    (hm : start.after? x.attempts = some m) : migrationRecord s start x a schema =
      .ofSaved (migrationPath s m a schema.name) .migration
        (save s x.disk (migrationPath s m a schema.name)
          (Migration.classText (s.templates.source x.disk) schema a)) := by
  unfold migrationRecord
  rw [h, hm]

/-- The record of the application's seeder where there is one. -/
theorem record_of_present (h : x.disk.hasEntry (databasePath s) = true) :
    record s start x .databaseSeeder = patchRecord s x.disk :=
  if_pos h

/-- The record of the application's seeder where there is none. -/
theorem record_of_absent (h : x.disk.hasEntry (databasePath s) = false) :
    record s start x .databaseSeeder =
      seederRecord s x.disk s.seedsRoot Seeder.databaseClass (Seeder.call Seeder.rootClass) :=
  if_neg (by rw [h]; exact Bool.false_ne_true)

/-- A step adds the record of its task to the summary. -/
theorem Step.adds (h : Step s start x t y) :
    Adds s t (record s start x t) x.summary y.summary := by
  cases h with
  | announce message => exact .nothing s _ x.summary
  | migrationSkipped a schema h =>
    rw [record, migrationRecord_of_found h]
    exact .left s _ x.summary
  | migrationWritten a schema m d text h hm hsave =>
    rw [record, migrationRecord_of_stamp h hm, hsave]
    exact .file s _ x.summary _
  | migrationFailed a schema m e h hm hsave =>
    rw [record, migrationRecord_of_stamp h hm, hsave]
    exact .migrationProblem s a schema x.summary e
  | seeder _ dir className content h => exact h.adds rfl
  | databaseMade _ habsent h =>
    rw [record_of_absent habsent]
    exact h.adds rfl
  | databaseUnreadable fault hpresent h =>
    rw [record_of_present hpresent]
    unfold patchRecord
    rw [h]
    exact .seederProblem rfl x.summary _
  | databaseCalls text hpresent h hpatch =>
    rw [record_of_present hpresent]
    unfold patchRecord
    simp only [h, hpatch]
    exact .left s _ x.summary
  | databaseLeft text hpresent h hpatch =>
    rw [record_of_present hpresent]
    unfold patchRecord
    simp only [h, hpatch]
    exact .nothing s _ x.summary
  | databasePatched text patched d hpresent h hpatch hstore =>
    rw [record_of_present hpresent]
    unfold patchRecord
    simp only [h, hpatch, hstore]
    exact .nothing s _ x.summary
  | databaseUnwritable text patched fault hpresent h hpatch hstore =>
    rw [record_of_present hpresent]
    unfold patchRecord
    simp only [h, hpatch, hstore]
    exact .seederProblem rfl x.summary _

/-- A migration that is performed is found, written or has a problem. -/
theorem Step.record_ne_nothing {a : Action} {schema : Schema}
    (h : Step s start x (.migration a schema) y) :
    record s start x (.migration a schema) ≠ .nothing := by
  cases h with
  | migrationSkipped _ _ h =>
    rw [record, migrationRecord_of_found h]
    nofun
  | migrationWritten _ _ m d text h hm hsave =>
    rw [record, migrationRecord_of_stamp h hm, hsave]
    nofun
  | migrationFailed _ _ m e h hm hsave =>
    rw [record, migrationRecord_of_stamp h hm, hsave]
    nofun

/-! ## Problems of tasks -/

/-- Saving a text fails as generating it did, or because it cannot be written. -/
theorem isOfTask_of_save {path : Path} {source : Except Error String} {e : Error}
    (hsource : ∀ e, source = .error e → e.isOfTask = true) (h : save s d path source = .error e) :
    e.isOfTask = true := by
  cases source with
  | error e' =>
    cases h
    exact hsource _ rfl
  | ok text =>
    rw [save] at h
    split at h
    · cases h
    · cases h
      rfl

/-- A text that is not saved has the problem for which it is not. -/
theorem Record.eq_error_of_ofSaved {path : Path} {kind : FileKind}
    {saved : Except Error (Disk × String)} {e : Error}
    (h : ofSaved path kind saved = .problem e) : saved = .error e := by
  cases saved with
  | ok result => cases h
  | error e' =>
    cases h
    rfl

/-- The problem of a seeder is one of its template or of its file. -/
theorem isOfTask_of_seederRecord {dir : Path} {className content : String} {e : Error}
    (h : seederRecord s d dir className content = .problem e) : e.isOfTask = true := by
  unfold seederRecord at h
  dsimp only at h
  split at h
  · cases h
  · exact isOfTask_of_save (fun _ => Seeder.isOfTask_of_classText) (Record.eq_error_of_ofSaved h)

/-- The problem of a migration is one of its templates or of its file. -/
theorem isOfTask_of_migrationRecord {a : Action} {schema : Schema} {e : Error}
    (h : migrationRecord s start x a schema = .problem e) : e.isOfTask = true := by
  unfold migrationRecord at h
  split at h
  · cases h
  · cases h
  · exact isOfTask_of_save (fun _ => Migration.isOfTask_of_classText)
      (Record.eq_error_of_ofSaved h)

/-- The problem of the application's seeder where there is one is that it cannot be read or
written. -/
theorem isOfTask_of_patchRecord {e : Error} (h : patchRecord s d = .problem e) :
    e.isOfTask = true := by
  unfold patchRecord at h
  split at h
  · cases h
    rfl
  · split at h
    · cases h
    · cases h
    · split at h
      · cases h
      · cases h
        rfl

/-- The problem of a task is one of a template or of a file. -/
theorem isOfTask_of_record {e : Error} (h : record s start x t = .problem e) :
    e.isOfTask = true := by
  cases t with
  | announce message => cases h
  | migration a schema => exact isOfTask_of_migrationRecord h
  | seeder dir className content => exact isOfTask_of_seederRecord h
  | databaseSeeder =>
    cases hentry : x.disk.hasEntry (databasePath s) with
    | true => exact isOfTask_of_patchRecord (record_of_present hentry ▸ h)
    | false => exact isOfTask_of_seederRecord (record_of_absent hentry ▸ h)

/-! ## Chronicles -/

/-- The record of a task at a state. -/
def recordAt (s : Settings) (start : Moment) (turn : Task × State) : Record :=
  record s start turn.2 turn.1

/-- The turns of a run, each with the state that the run has reached by then, and a summary that
lists their records and nothing else. -/
structure Chronicle (s : Settings) (start : Moment) (set : SchemaSet) (d : Disk)
    (turns : List (Task × State)) (summary : Summary) : Prop where
  /-- The run has reached the state of each turn by the tasks before it. -/
  reached : ∀ front t x, front ++ [(t, x)] <+: turns →
    ∃ p, Reaches s start set d (front.map Prod.fst) p ∧ state p = x
  /-- Every migration is left alone, written or has a problem. -/
  settled : ∀ turn ∈ turns, ∀ pair, migrationOf? turn.1 = some pair →
    recordAt s start turn ≠ .nothing
  /-- The files that are written are listed. -/
  written : summary.written = turns.filterMap fun turn => (recordAt s start turn).file?
  /-- The files that are left alone are counted. -/
  skipped : summary.skipped = turns.countP fun turn => (recordAt s start turn).isLeft
  /-- The failures of migrations are listed. -/
  failed : summary.failed = turns.filterMap fun turn => failure? turn.1 (recordAt s start turn)
  /-- The failures of seeders are listed. -/
  seederFailures : summary.seederFailures =
    turns.filterMap fun turn => seederFailure? s turn.1 (recordAt s start turn)

namespace Chronicle

/-- A run that has performed no task has had no turns. -/
theorem begins (d' : Disk) : Chronicle s start set d [] (begin s set d d').summary where
  reached front t x h := by simp at h
  settled := nofun
  written := rfl
  skipped := rfl
  failed := rfl
  seederFailures := rfl

/-- One more step is one more turn. -/
theorem step (h : Chronicle s start set d turns p.summary)
    (hreach : Reaches s start set d (turns.map Prod.fst) p) (hstep : Step s start (state p) t y) :
    Chronicle s start set d (turns ++ [(t, state p)]) y.summary := by
  have hadds : Adds s t (recordAt s start (t, state p)) p.summary y.summary := hstep.adds
  -- What the turn adds stands at the end of each list, since the turn is the last one.
  constructor
  · intro front t' x hfront
    rcases List.prefix_concat_iff.mp hfront with hlast | hearlier
    · obtain ⟨rfl, hturn⟩ := List.append_inj' hlast rfl
      cases hturn
      exact ⟨p, hreach, rfl⟩
    · exact h.reached front t' x hearlier
  · intro turn hturn pair hpair
    rw [List.mem_append, List.mem_singleton] at hturn
    rcases hturn with hturn | rfl
    · exact h.settled turn hturn pair hpair
    · cases t with
      | migration a schema => exact hstep.record_ne_nothing
      | _ => cases hpair
  · rw [hadds.written, h.written, List.filterMap_append]
    cases hfile : (recordAt s start (t, state p)).file? <;> simp [hfile]
  · rw [hadds.skipped, h.skipped, List.countP_append, List.countP_singleton]
    cases (recordAt s start (t, state p)).isLeft <;> rfl
  · rw [hadds.failed, h.failed, List.filterMap_append]
    cases hfailure : failure? t (recordAt s start (t, state p)) <;> simp [hfailure]
  · rw [hadds.seederFailures, h.seederFailures, List.filterMap_append]
    cases hfailure : seederFailure? s t (recordAt s start (t, state p)) <;> simp [hfailure]

/-- The problem of every turn is in the summary. -/
theorem recorded (h : Chronicle s start set d turns summary) {turn : Task × State}
    (hturn : turn ∈ turns) {e : Error} (he : recordAt s start turn = .problem e) :
    (∃ f ∈ summary.failed, f.message = e.message) ∨
      ∃ f ∈ summary.seederFailures, f.message = e.message := by
  obtain ⟨t, x⟩ := turn
  have hmigration : ∀ a schema, migrationOf? t = some (a, schema) →
      ⟨schema.name, a, e.message⟩ ∈ summary.failed := by
    intro a schema hpair
    rw [h.failed, List.mem_filterMap]
    exact ⟨(t, x), hturn, by simp [failure?, hpair, he, Record.problem?]⟩
  have hseeder : ∀ dir className, seederOf? s t = some (dir, className) →
      ⟨className, e.message⟩ ∈ summary.seederFailures := by
    intro dir className hpair
    rw [h.seederFailures, List.mem_filterMap]
    exact ⟨(t, x), hturn, by simp [seederFailure?, hpair, he, Record.problem?]⟩
  cases t with
  | announce message => cases he
  | migration a schema => exact .inl ⟨_, hmigration a schema rfl, rfl⟩
  | seeder dir className content => exact .inr ⟨_, hseeder dir className rfl, rfl⟩
  | databaseSeeder => exact .inr ⟨_, hseeder s.seedsRoot Seeder.databaseClass rfl, rfl⟩

end Chronicle

/-- Whatever a run reaches, its summary lists the records of its turns. -/
theorem Reaches.chronicle (h : Reaches s start set d done p) :
    ∃ turns, turns.map Prod.fst = done ∧ Chronicle s start set d turns p.summary := by
  refine Reaches.induction
    (motive := fun done p => ∃ turns, turns.map Prod.fst = done ∧
      Chronicle s start set d turns p.summary)
    (fun d' hmade => ⟨[], rfl, .begins d'⟩) (fun done t p p' hreach hplanned hperform ih => ?_) h
  obtain ⟨turns, rfl, hchronicle⟩ := ih
  exact ⟨turns ++ [(t, state p)], by simp, hchronicle.step hreach (perform_step hperform)⟩

/-- A run within the calendar ends with no error but that of a directory that cannot be made, and
then it has made directories at most: every entry of the disk is as it was, and there is no new
file. Every other run performs its whole plan, so each pair of an action and a schema that is not
dropped has its turn, in order, and is left alone, written or has a problem. Every problem that a
turn meets is one of a template or a file, and it is in the summary, which lists the records of the
turns and nothing else. -/
theorem execute_problems (hstamps : StampsInRange s start set d) :
    match (execute s start set d).ending with
    | .refused e => (∃ path reason, e = .directoryCreate path reason) ∧
        (∀ place entry, d.find? place = some entry →
          (execute s start set d).disk.find? place = some entry) ∧
        ∀ place content, (execute s start set d).disk.find? place = some (.file content) →
          d.find? place = some (.file content)
    | .outOfCalendar => False
    | .finished summary => ∃ turns : List (Task × State),
        turns.map Prod.fst = Task.plan s set ∧
        turns.filterMap (fun turn => migrationOf? turn.1) = pairs set ∧
        Chronicle s start set d turns summary ∧
        ∀ turn ∈ turns, ∀ e, recordAt s start turn = .problem e → e.isOfTask = true ∧
          ((∃ f ∈ summary.failed, f.message = e.message) ∨
            ∃ f ∈ summary.seederFailures, f.message = e.message) := by
  rcases hstamps.execute_cases with ⟨path, reason, hending, hdisk⟩ | ⟨p, hreach, hdisk, hending⟩
  · -- The refusal comes before the first task, when directories are all that was made.
    have hadds := addsDirectories_makeDirectories s.dryRun d (directories s)
    rw [hending, hdisk]
    exact ⟨⟨path, reason, rfl⟩, hadds.find?, hadds.file⟩
  · obtain ⟨turns, hplan, hchronicle⟩ := hreach.chronicle
    rw [hending]
    refine ⟨turns, hplan, ?_, hchronicle, fun turn hturn e he => ?_⟩
    · rw [← migrations_plan s set, ← hplan, List.filterMap_map]
      rfl
    · exact ⟨isOfTask_of_record he, hchronicle.recorded hturn he⟩

/-- A run meets a template that is no text, one that is missing, one with a token left over, a path
that cannot be written and an application's seeder that is no text, and still writes the migration
that comes last. With a file in the place of the directory of seeders the same run is refused, after
it has made the directory of migrations. -/
theorem execute_problems_many :
    let s : Settings := {
      schema := ⟨"schema.json"⟩
      databaseDir := ⟨"db"⟩
      path := "v1"
      templatesDir := some ⟨"stubs"⟩
      seed := true }
    let start : Moment := ⟨2024, 2, 28, 23, 59, 59, by decide⟩
    let set : SchemaSet := {
      create := [⟨"users", [], false⟩]
      update := [⟨"users", [], false⟩]
      remove := [⟨"a/b", [], false⟩, ⟨"users", [], false⟩] }
    let d : Disk := ⟨[(["stubs"], .directory),
      (["stubs", "migration.stub"], .file "\x7b\x7bclass\x7d\x7d".toUTF8),
      (["stubs", "schema-create.stub"], .file ⟨#[255]⟩),
      (["stubs", "schema-remove.stub"], .file "".toUTF8),
      (["stubs", "seeder.stub"], .file "\x7b\x7boops\x7d\x7d".toUTF8),
      (["db"], .directory), (["db", "seeds"], .directory),
      (["db", "seeds", "DatabaseSeeder.php"], .file ⟨#[255]⟩)], [], by decide⟩
    let blocked : Disk := ⟨[(["db"], .directory), (["db", "seeds"], .file "".toUTF8)],
      [], by decide⟩
    (∃ summary turns, (execute s start set d).ending = .finished summary ∧
      summary.failed.length = 3 ∧ summary.seederFailures.length = 4 ∧
      summary.written.length = 1 ∧
      turns.filterMap (fun turn : Task × State => migrationOf? turn.1) = pairs set ∧
      Chronicle s start set d turns summary) ∧
    ∃ path reason,
      (execute s start set blocked).ending = .refused (.directoryCreate path reason) ∧
      (execute s start set blocked).disk.find? ["db", "migrations", "v1"] = some .directory ∧
      ∀ place content, (execute s start set blocked).disk.find? place = some (.file content) →
        blocked.find? place = some (.file content) := by
  intro s start set d blocked
  have hcalendar : ∀ k < (pairs set).length, (start.after? k).isSome := by decide
  constructor
  · have hfinished : ((execute s start set d).ending.finishedWith fun summary =>
        decide (summary.failed.length = 3 ∧ summary.seederFailures.length = 4 ∧
          summary.written.length = 1)) = true := by decide +kernel
    obtain ⟨summary, hending, hcheck⟩ := Ending.exists_of_finishedWith hfinished
    obtain ⟨hfailed, hseeders, hwritten⟩ := of_decide_eq_true hcheck
    have h := execute_problems (stampsInRange_of_pairs (d := d) (s := s) hcalendar)
    rw [hending] at h
    obtain ⟨turns, -, hpairs, hchronicle, -⟩ := h
    exact ⟨summary, turns, hending, hfailed, hseeders, hwritten, hpairs, hchronicle⟩
  · have hrefused : (match (execute s start set blocked).ending with
        | .refused _ => true
        | _ => false) = true := by decide +kernel
    have h := execute_problems (stampsInRange_of_pairs (d := blocked) (s := s) hcalendar)
    split at hrefused
    next e hending =>
      rw [hending] at h
      obtain ⟨⟨path, reason, rfl⟩, -, hfiles⟩ := h
      exact ⟨path, reason, hending, by decide +kernel, hfiles⟩
    next => cases hrefused

end Run

end SchemaForge
