import SchemaForge.Proofs.Run.Missed

/-!
# The ledger of a run

A run that ends has gone through its pairs of an action and a schema in order, and each has its
verdict: it is skipped if there is a migration of it in the directory of migrations, from before or
written earlier in the run; otherwise it takes the next stamp and is written or fails. `Follows`
says this without the seeders, the searches and the disk in between, and `execute_follows` shows
that the summary of every run lists what the verdicts say, in order.

Of the migrations from before, those count that a search can come to. Where it misses one, the run
writes another (`exists_written_of_missed`).
-/

namespace SchemaForge.Run

variable {s : Settings} {start : Moment} {set : SchemaSet} {d d₁ : Disk} {x y : State}
  {before : Action → String → Prop} {passed : List (Action × Schema)} {vs : List Verdict}
  {done : List Task} {p : Progress} {t : Task}

/-- What becomes of a pair of an action and a schema. -/
inductive Verdict where
  /-- There is a migration of it already. -/
  | skipped
  /-- Its migration is written. -/
  | written (file : GeneratedFile)
  /-- Its migration cannot be generated or written. -/
  | failed (failure : Failure)

namespace Verdict

/-- The file that is written. -/
def file? : Verdict → Option GeneratedFile
  | written f => some f
  | _ => none

/-- The failure that is recorded. -/
def failure? : Verdict → Option Failure
  | failed f => some f
  | _ => none

/-- Whether the pair takes a stamp. -/
def isAttempt : Verdict → Bool
  | skipped => false
  | _ => true

end Verdict

/-- There is a migration of an action and table: one from before the run, or one that is written in
it. -/
def Taken (s : Settings) (d : Disk) (before : Action → String → Prop) (vs : List Verdict)
    (a : Action) (table : String) : Prop :=
  before a table ∨
    ∃ f, .written f ∈ vs ∧ d.placeOf s.migrationsDir <+: d.placeOf f.path ∧
      suffixAt? (d.placeOf f.path) = some (Migration.suffix a table)

/-- The turn of a pair: the run has reached a progress by tasks whose migrations are those of the
pairs before it, and the migration of the pair comes next. -/
def Turn (s : Settings) (start : Moment) (set : SchemaSet) (d : Disk)
    (passed : List (Action × Schema)) (a : Action) (schema : Schema) (p : Progress) : Prop :=
  ∃ done, Reaches s start set d done p ∧ done.filterMap migrationOf? = passed ∧
    done ++ [.migration a schema] <+: Task.plan s set

/-- The verdicts of a run on pairs in order: `d` is the disk before the run, `d₁` has the
directories of the run, too, and `before` says of which actions and tables there is a migration from
before. -/
inductive Follows (s : Settings) (start : Moment) (set : SchemaSet) (d d₁ : Disk)
    (before : Action → String → Prop) : List (Action × Schema) → List Verdict → Prop where
  /-- There are no pairs yet. -/
  | nil : Follows s start set d d₁ before [] []
  /-- A pair is skipped if there is a migration of it. -/
  | skipped {passed : List (Action × Schema)} {vs : List Verdict} (a : Action) (schema : Schema)
      (h : Follows s start set d d₁ before passed vs) (htaken : Taken s d before vs a schema.name) :
      Follows s start set d d₁ before (passed ++ [(a, schema)]) (vs ++ [.skipped])
  /-- A pair is written with the next stamp and the text that the templates give for it. -/
  | written {passed : List (Action × Schema)} {vs : List Verdict} (a : Action) (schema : Schema)
      (m : Moment) (text : String) (p : Progress) (d' : Disk)
      (h : Follows s start set d d₁ before passed vs) (hfree : ¬Taken s d before vs a schema.name)
      (hm : start.after? (vs.countP Verdict.isAttempt) = some m)
      (htext : Migration.classText (s.templates.source d₁) schema a = .ok text)
      (hturn : Turn s start set d passed a schema p)
      (hsave : save s p.disk (migrationPath s m a schema.name)
        (Migration.classText (s.templates.source p.disk) schema a) = .ok (d', text)) :
      Follows s start set d d₁ before (passed ++ [(a, schema)])
        (vs ++ [.written ⟨migrationPath s m a schema.name, text, .migration⟩])
  /-- A pair fails with the next stamp and the error of generating or writing it at its turn. -/
  | failed {passed : List (Action × Schema)} {vs : List Verdict} (a : Action) (schema : Schema)
      (m : Moment) (e : Error) (p : Progress) (h : Follows s start set d d₁ before passed vs)
      (hfree : ¬Taken s d before vs a schema.name)
      (hm : start.after? (vs.countP Verdict.isAttempt) = some m)
      (hturn : Turn s start set d passed a schema p)
      (hsave : save s p.disk (migrationPath s m a schema.name)
        (Migration.classText (s.templates.source p.disk) schema a) = .error e) :
      Follows s start set d d₁ before (passed ++ [(a, schema)])
        (vs ++ [.failed ⟨schema.name, a, e.message⟩])

/-! ## What a run has made ready -/

/-- The directory of migrations is there, paths lead where they led before the run, and only code
was written since the directories were made. -/
structure Ready (s : Settings) (d d₁ : Disk) (x : State) : Prop where
  /-- The directory of migrations is there. -/
  located : x.disk.locate s.migrationsDir = .ok (.present (d.placeOf s.migrationsDir) .directory)
  /-- Paths lead to the same locations. -/
  placeOf : ∀ p, x.disk.placeOf p = d.placeOf p
  /-- Only code was written. -/
  code : WritesCode d₁ x.disk

/-- A run is ready when its directories are made. -/
theorem Ready.begins (hreal : s.dryRun = false)
    (hmade : makeDirectories s.dryRun d (directories s) = (d₁, .ok ())) :
    Ready s d d₁ (state (begin s set d d₁)) := by
  have hadds := addsDirectories_makeDirectories s.dryRun d (directories s)
  rw [hmade] at hadds
  rw [hreal] at hmade
  -- Without the directory of migrations the search would find nothing, whatever there is.
  have hthere : d₁.hasDirectory s.migrationsDir = true :=
    hasDirectory_makeDirectories hmade (by simp [directories]) (migrationsDir_ne_empty s)
  refine ⟨?_, hadds.keeps.placeOf, .refl d₁⟩
  rw [Disk.hasDirectory] at hthere
  split at hthere
  next place hlocate =>
    have hplace : place = d₁.placeOf s.migrationsDir := Disk.locate_place hlocate
    rw [← hadds.keeps.placeOf, ← hplace]
    exact hlocate
  next => cases hthere

/-- A step leaves a run ready. -/
theorem Ready.change (hnames : PlainNames set) (ht : t ∈ Task.plan s set)
    (hchange : Change s start x t y) (h : Ready s d d₁ x) : Ready s d d₁ y where
  located := hchange.keeps.locate h.located
  placeOf p := (hchange.keeps.placeOf p).trans (h.placeOf p)
  code := h.code.change hnames ht hchange

/-- When a run is ready, its search finds what a walk sees. -/
theorem Ready.found (h : Ready s d d₁ x) (a : Action) (table : String) :
    findMigrations x.disk s.migrationsDir a table ≠ [] ↔
      SeesMigration x.disk s.migrationsDir a table := by
  have hlocated := h.located
  rw [← h.placeOf] at hlocated
  exact findMigrations_ne_nil.trans (and_iff_right ⟨_, hlocated⟩)

/-! ## Tasks that are no migrations -/

/-- The migrations among written files. -/
def migrationsOf (files : List GeneratedFile) : List GeneratedFile :=
  files.filter fun f => f.kind = .migration

/-- Making a seeder attempts and lists no migration. -/
theorem SeederStep.migrations {dir : Path} {className content : String}
    (h : SeederStep s dir className content x y) :
    y.attempts = x.attempts ∧ y.summary.failed = x.summary.failed ∧
      migrationsOf y.summary.written = migrationsOf x.summary.written := by
  cases h with
  | skipped hentry => exact ⟨rfl, rfl, rfl⟩
  | written d text hnone hsave => exact ⟨rfl, rfl, by simp [wrote, migrationsOf]⟩
  | failed e hnone hsave => exact ⟨rfl, rfl, rfl⟩

/-- A task that is no migration attempts and lists none. -/
theorem Step.migrations (hother : migrationOf? t = none) (h : Step s start x t y) :
    y.attempts = x.attempts ∧ y.summary.failed = x.summary.failed ∧
      migrationsOf y.summary.written = migrationsOf x.summary.written := by
  cases h with
  | migrationSkipped a schema h => cases hother
  | migrationWritten a schema m d text h hm hsave => cases hother
  | migrationFailed a schema m e h hm hsave => cases hother
  | seeder _ dir className content hseeder => exact hseeder.migrations
  | databaseMade _ habsent hseeder => exact hseeder.migrations
  | _ => exact ⟨rfl, rfl, rfl⟩

/-- A task that is no migration makes none. -/
theorem Change.seesMigration (ht : t ∈ Task.plan s set) (hother : migrationOf? t = none)
    (h : Change s start x t y) (dir : Path) (a : Action) (table : String) :
    SeesMigration y.disk dir a table ↔ SeesMigration x.disk dir a table := by
  cases h with
  | nothing hdisk => rw [hdisk]
  | migration a schema m text hmigration hnone hm hattempts hwrite =>
    subst hmigration
    cases hother
  | seeder _ className text hseeder hnone hwrite =>
    rw [seesMigration_write hwrite, suffixAt?_seederPath x.disk _ (plain_of_plan ht hseeder)]
    simp
  | patch text patched hdatabase hread hpatch hwrite =>
    rw [seesMigration_write hwrite, databasePath,
      suffixAt?_seederPath x.disk _ Seeder.databaseClass_plain]
    simp

/-! ## The verdicts of a run -/

/-- A run is where its verdicts on the pairs so far leave it. -/
structure Tally (s : Settings) (start : Moment) (set : SchemaSet) (d d₁ : Disk)
    (passed : List (Action × Schema)) (vs : List Verdict) (x : State) : Prop where
  /-- The run is ready. -/
  ready : Ready s d d₁ x
  /-- The verdicts are right. -/
  follows : Follows s start set d d₁ (SeesMigration d s.migrationsDir) passed vs
  /-- A search sees the migrations that it saw before the run and those that are written. -/
  taken : ∀ a table, SeesMigration x.disk s.migrationsDir a table ↔
    Taken s d (SeesMigration d s.migrationsDir) vs a table
  /-- Every pair that is not skipped has taken a stamp. -/
  attempts : x.attempts = vs.countP Verdict.isAttempt
  /-- The written migrations are listed. -/
  written : migrationsOf x.summary.written = vs.filterMap Verdict.file?
  /-- The failures are listed. -/
  failed : x.summary.failed = vs.filterMap Verdict.failure?

/-- A verdict that writes nothing leaves what is taken. -/
theorem taken_concat {v : Verdict} (hv : v.file? = none) (a : Action) (table : String) :
    Taken s d before (vs ++ [v]) a table ↔ Taken s d before vs a table := by
  have hmem : ∀ f, .written f ∈ vs ++ [v] ↔ .written f ∈ vs := by
    intro f
    rw [List.mem_append, List.mem_singleton, or_iff_left_of_imp]
    rintro rfl
    cases hv
  simp only [Taken, hmem]

/-- A written file is taken if it is a migration in the directory of migrations. -/
theorem taken_concat_written (f : GeneratedFile) (a : Action) (table : String) :
    Taken s d before (vs ++ [.written f]) a table ↔ Taken s d before vs a table ∨
      d.placeOf s.migrationsDir <+: d.placeOf f.path ∧
        suffixAt? (d.placeOf f.path) = some (Migration.suffix a table) := by
  constructor
  · rintro (h | ⟨g, hg, hbase, hsuffix⟩)
    · exact .inl (.inl h)
    · rw [List.mem_append, List.mem_singleton] at hg
      rcases hg with hg | hg
      · exact .inl (.inr ⟨g, hg, hbase, hsuffix⟩)
      · cases hg
        exact .inr ⟨hbase, hsuffix⟩
  · rintro ((h | ⟨g, hg, hbase, hsuffix⟩) | ⟨hbase, hsuffix⟩)
    · exact .inl h
    · exact .inr ⟨g, List.mem_append_left _ hg, hbase, hsuffix⟩
    · exact .inr ⟨f, by simp, hbase, hsuffix⟩

/-- A run has no verdicts when its directories are made. -/
theorem Tally.begins (hreal : s.dryRun = false)
    (hmade : makeDirectories s.dryRun d (directories s) = (d₁, .ok ())) :
    Tally s start set d d₁ [] [] (state (begin s set d d₁)) where
  ready := .begins hreal hmade
  follows := .nil
  taken a table := by
    have hadds := addsDirectories_makeDirectories s.dryRun d (directories s)
    rw [hmade] at hadds
    have hsees : ∀ place, d₁.Sees s.migrationsDir place ↔ d.Sees s.migrationsDir place :=
      fun place => hadds.sees s.migrationsDir place
    simp [Taken, SeesMigration, state, begin, hsees]
  attempts := rfl
  written := rfl
  failed := rfl

/-- A task that is no migration leaves the verdicts. -/
theorem Tally.other (hreal : s.dryRun = false) (hnames : PlainNames set)
    (ht : t ∈ Task.plan s set) (hother : migrationOf? t = none) (hstep : Step s start x t y)
    (h : Tally s start set d d₁ passed vs x) : Tally s start set d d₁ passed vs y where
  ready := h.ready.change hnames ht (hstep.change hreal)
  follows := h.follows
  taken a table := by rw [(hstep.change hreal).seesMigration ht hother, h.taken]
  attempts := (hstep.migrations hother).1.trans h.attempts
  written := (hstep.migrations hother).2.2.trans h.written
  failed := (hstep.migrations hother).2.1.trans h.failed

/-- A migration adds the verdict on its pair. -/
theorem Tally.migration (hreal : s.dryRun = false) (hnames : PlainNames set) {a : Action}
    {schema : Schema} (hturn : Turn s start set d passed a schema p)
    (hstep : Step s start (state p) (.migration a schema) y)
    (h : Tally s start set d d₁ passed vs (state p)) :
    ∃ v, Tally s start set d d₁ (passed ++ [(a, schema)]) (vs ++ [v]) y := by
  have ht : .migration a schema ∈ Task.plan s set := by
    obtain ⟨done, -, -, hplanned⟩ := hturn
    exact hplanned.subset (by simp)
  have hready := h.ready.change hnames ht (hstep.change hreal)
  -- The search decides as the verdicts do.
  have hfound := (h.ready.found a schema.name).trans (h.taken a schema.name)
  cases hstep with
  | migrationSkipped _ _ hsome =>
    exact ⟨.skipped, {
      ready := hready
      follows := .skipped a schema h.follows (hfound.mp hsome)
      taken := fun b table => (h.taken b table).trans (taken_concat rfl b table).symm
      attempts := by simpa [Verdict.isAttempt] using h.attempts
      written := by
        rw [List.filterMap_append]
        exact h.written.trans (List.append_nil _).symm
      failed := by
        rw [List.filterMap_append]
        exact h.failed.trans (List.append_nil _).symm }⟩
  | migrationWritten _ _ m d' text hnone hm hsave =>
    have hfree : ¬Taken s d (SeesMigration d s.migrationsDir) vs a schema.name :=
      fun htaken => hfound.mpr htaken hnone
    obtain ⟨htext, hwrite⟩ := write_of_save hreal hsave
    rw [h.attempts] at hm
    refine ⟨.written ⟨migrationPath s m a schema.name, text, .migration⟩, {
      ready := hready
      follows := .written a schema m text p d' h.follows hfree hm (h.ready.code.classText htext)
        hturn hsave
      taken := fun b table => ?_
      attempts := by simp [Verdict.isAttempt, h.attempts]
      written := ?_
      failed := by
        rw [List.filterMap_append]
        exact h.failed.trans (List.append_nil _).symm }⟩
    · -- The file is in the directory of migrations itself, so a walk can come to it.
      have hreach : (state p).disk.InReach s.migrationsDir
          ((state p).disk.placeOf (migrationPath s m a schema.name)) :=
        Disk.inReach_of_write (isEntryName_of_plan hnames ht m) hwrite
      rw [seesMigration_write hwrite, h.taken, taken_concat_written, and_iff_right hreach,
        h.ready.placeOf, h.ready.placeOf]
    · rw [List.filterMap_append, ← h.written]
      exact List.filter_append _ _
  | migrationFailed _ _ m e hnone hm hsave =>
    have hfree : ¬Taken s d (SeesMigration d s.migrationsDir) vs a schema.name :=
      fun htaken => hfound.mpr htaken hnone
    rw [h.attempts] at hm
    exact ⟨.failed ⟨schema.name, a, e.message⟩, {
      ready := hready
      follows := .failed a schema m e p h.follows hfree hm hturn hsave
      taken := fun b table => (h.taken b table).trans (taken_concat rfl b table).symm
      attempts := by simp [Verdict.isAttempt, h.attempts]
      written := by
        rw [List.filterMap_append]
        exact h.written.trans (List.append_nil _).symm
      failed := by
        rw [List.filterMap_append, ← h.failed]
        rfl }⟩

/-- Whatever a run reaches is where its verdicts on the pairs so far leave it. -/
theorem Tally.reaches (hreal : s.dryRun = false) (hnames : PlainNames set)
    (hreach : Reaches s start set d done p) :
    ∃ d₁, makeDirectories s.dryRun d (directories s) = (d₁, .ok ()) ∧
      ∃ vs, Tally s start set d d₁ (done.filterMap migrationOf?) vs (state p) := by
  refine Reaches.induction (motive := fun done p => ∃ d₁,
    makeDirectories s.dryRun d (directories s) = (d₁, .ok ()) ∧
      ∃ vs, Tally s start set d d₁ (done.filterMap migrationOf?) vs (state p))
    (fun d₁ hmade => ⟨d₁, hmade, [], .begins hreal hmade⟩) ?_ hreach
  rintro done t p p' hreach hplanned hperform ⟨d₁, hmade, vs, htally⟩
  refine ⟨d₁, hmade, ?_⟩
  have ht : t ∈ Task.plan s set := hplanned.subset (by simp)
  have hstep := perform_step hperform
  rw [List.filterMap_append]
  cases hpair : migrationOf? t with
  | none =>
    have hlast : [t].filterMap migrationOf? = [] := by simp [hpair]
    rw [hlast, List.append_nil]
    exact ⟨vs, htally.other hreal hnames ht hpair hstep⟩
  | some pair =>
    cases t with
    | migration a schema =>
      obtain ⟨v, hv⟩ := htally.migration hreal hnames ⟨done, hreach, rfl, hplanned⟩ hstep
      exact ⟨vs ++ [v], hv⟩
    | _ => cases hpair

/-- The summary of a real run that ends lists what the verdicts on its pairs say: the written
migrations and the failures, both in order. No stamp needs a plain year for this. A migration from
before the run is one that a search sees, and any that lies in the directory of migrations if a
search can come to every file there that has a stamp. -/
theorem execute_follows (hreal : s.dryRun = false) (hnames : PlainNames set) {summary : Summary}
    (h : (execute s start set d).ending = .finished summary) :
    ∃ d₁ vs, makeDirectories s.dryRun d (directories s) = (d₁, .ok ()) ∧
      Follows s start set d d₁ (SeesMigration d s.migrationsDir) (pairs set) vs ∧
      (StampsInReach d s.migrationsDir →
        Follows s start set d d₁ (HasMigration d s.migrationsDir) (pairs set) vs) ∧
      (summary.written.filter fun f => f.kind = .migration) = vs.filterMap Verdict.file? ∧
      summary.failed = vs.filterMap Verdict.failure? := by
  rcases execute_cases s start set d with ⟨e, -, hending⟩ | ⟨p, hreach, -, hending⟩ |
    ⟨done, p, -, -, hending, -⟩
  · rw [h] at hending
    cases hending
  · rw [h] at hending
    cases hending
    obtain ⟨d₁, hmade, vs, htally⟩ := Tally.reaches hreal hnames hreach
    rw [migrations_plan] at htally
    refine ⟨d₁, vs, hmade, htally.follows, fun hreach => ?_, htally.written, htally.failed⟩
    have hsame : SeesMigration d s.migrationsDir = HasMigration d s.migrationsDir := by
      funext a table
      exact propext (seesMigration_iff hreach a table)
    exact hsame ▸ htally.follows
  · rw [h] at hending
    cases hending

/-- A run for a table that has a migration already and one that has none. -/
theorem execute_follows_second :
    let s : Settings := { schema := ⟨"schema.json"⟩, templatesDir := some ⟨"stubs"⟩ }
    let start : Moment := ⟨2026, 12, 31, 23, 59, 59, by decide⟩
    let set : SchemaSet := { create := [⟨"users", [], false⟩, ⟨"posts", [], false⟩] }
    let d : Disk := ⟨[(["stubs"], .directory),
      (["stubs", "migration.stub"], .file "\x7b\x7bclass\x7d\x7d".toUTF8),
      (["stubs", "schema-create.stub"], .file "".toUTF8),
      (["database"], .directory), (["database", "migrations"], .directory),
      (["database", "migrations", "civi"], .directory),
      (["database", "migrations", "civi", "2025_01_01_000000_create_users.php"],
        .file ⟨#[]⟩)], [], by decide⟩
    ∃ summary, (execute s start set d).ending = .finished summary ∧
      summary.skipped = 1 ∧ summary.migrations = 1 ∧
      ∃ d₁ vs, makeDirectories s.dryRun d (directories s) = (d₁, .ok ()) ∧
        Follows s start set d d₁ (HasMigration d s.migrationsDir) (pairs set) vs ∧
        (summary.written.filter fun f => f.kind = .migration) = vs.filterMap Verdict.file? ∧
        summary.failed = vs.filterMap Verdict.failure? := by
  intro s start set d
  have hnames : PlainNames set := plainNames_of_pairs (by decide)
  have hreach : StampsInReach d s.migrationsDir := stampsInReach_of_entries (by decide +kernel)
  have hfinished : ((execute s start set d).ending.finishedWith fun summary =>
      decide (summary.skipped = 1 ∧ summary.migrations = 1)) = true := by decide +kernel
  obtain ⟨summary, hending, hcheck⟩ := Ending.exists_of_finishedWith hfinished
  obtain ⟨hskipped, hmigrations⟩ := of_decide_eq_true hcheck
  obtain ⟨d₁, vs, hmade, -, hfollows, hwritten, hfailed⟩ := execute_follows rfl hnames hending
  exact ⟨summary, hending, hskipped, hmigrations, d₁, vs, hmade, hfollows hreach, hwritten,
    hfailed⟩

/-! ## Migrations that are missed -/

/-- Pairs that have migrations from before are skipped. -/
theorem Follows.eq_skipped (h : Follows s start set d d₁ before passed vs)
    (hall : ∀ pair ∈ passed, before pair.1 pair.2.name) :
    vs = List.replicate passed.length .skipped := by
  induction h with
  | nil => rfl
  | skipped a schema h htaken ih =>
    rw [ih fun pair hpair => hall pair (List.mem_append_left _ hpair), List.length_append,
      List.length_singleton, List.replicate_succ']
  | written a schema m text p d' h hfree =>
    exact absurd (.inl (hall (a, schema) (by simp))) hfree
  | failed a schema m e p h hfree => exact absurd (.inl (hall (a, schema) (by simp))) hfree

/-- A run that ends without failures lists a migration for every pair whose migration its search
misses. -/
theorem exists_written_of_missed (hreal : s.dryRun = false) (hnames : PlainNames set)
    (hstamps : PlainStamps s start set d) {summary : Summary}
    (h : (execute s start set d).ending = .finished summary) (hsuccess : summary.isSuccess = true)
    {a : Action} {schema : Schema} (hpair : (a, schema) ∈ pairs set)
    (hmissed : ¬SeesMigration d s.migrationsDir a schema.name) :
    ∃ f ∈ migrationsOf summary.written,
      suffixAt? (d.placeOf f.path) = some (Migration.suffix a schema.name) := by
  have hsees := seesMigration_execute hreal hnames hstamps h hsuccess hpair
  obtain ⟨p, hreach, rfl⟩ := exists_reaches_of_finished h
  obtain ⟨d₁, hmade, vs, htally⟩ := Tally.reaches hreal hnames hreach
  rw [hreach.disk_execute] at hsees
  obtain ⟨f, hf, -, hsuffix⟩ := ((htally.taken a schema.name).mp hsees).resolve_left hmissed
  have hwritten : migrationsOf p.summary.written = vs.filterMap Verdict.file? := htally.written
  exact ⟨f, hwritten ▸ List.mem_filterMap.mpr ⟨_, hf, rfl⟩, hsuffix⟩

/-- So a pair is not skipped wherever a migration of it lies below the directory of migrations. -/
theorem not_execute_follows :
    ¬∀ (s : Settings) (start : Moment) (set : SchemaSet) (d : Disk) (summary : Summary),
      s.dryRun = false → PlainNames set → PlainStamps s start set d →
        (execute s start set d).ending = .finished summary →
          ∃ d₁ vs, makeDirectories s.dryRun d (directories s) = (d₁, .ok ()) ∧
            Follows s start set d d₁ (HasMigration d s.migrationsDir) (pairs set) vs ∧
            (summary.written.filter fun f => f.kind = .migration) = vs.filterMap Verdict.file? ∧
            summary.failed = vs.filterMap Verdict.failure? := by
  intro hfollows
  obtain ⟨summary, hending, hsuccess⟩ := deep_succeeds
  have hnames : PlainNames usersSet := plainNames_of_pairs (by decide)
  have hstamps : PlainStamps dottedSettings deepStart usersSet deepDisk :=
    plainStamps_of_pairs (by decide)
  obtain ⟨d₁, vs, -, hvs, hwritten, -⟩ := hfollows _ _ _ _ _ rfl hnames hstamps hending
  have hskipped : vs = List.replicate (pairs usersSet).length .skipped :=
    hvs.eq_skipped (by simpa [pairs_usersSet] using hasMigration_deep)
  have hpair : (.create, ⟨"users", [], false⟩) ∈ pairs usersSet := by simp [pairs_usersSet]
  obtain ⟨f, hf, -⟩ := exists_written_of_missed rfl hnames hstamps hending hsuccess hpair
    not_seesMigration_deep
  rw [migrationsOf, hwritten, hskipped] at hf
  simp [Verdict.file?] at hf

end SchemaForge.Run
