import SchemaForge.Proofs.Run.Change
import SchemaForge.Proofs.Seeder.Layout

/-!
# Runs that are repeated

A task is settled on a disk where it has nothing to do: what it makes is there, or was left alone
(`Settled`). A real run without failures settles each task as it performs it (`Step.settles`), and
no later task unsettles it (`Change.settled`): files are only added, and a text that is written over
the application's seeder is never patched again. So a run of the same settings and schemas on the
disk that is left finds every task settled and changes nothing (`execute_of_settled`).
-/

namespace SchemaForge.Run

variable {s : Settings} {start : Moment} {set : SchemaSet} {d d' : Disk} {x y z : State}
  {t u : Task} {p : Progress}

/-- A task has nothing to do on a disk. -/
def Settled (s : Settings) (d : Disk) : Task → Prop
  | .announce _ => True
  | .migration a schema => findMigrations d s.migrationsDir a schema.name ≠ []
  | .seeder dir className _ => d.hasEntry (Seeder.pathIn dir className) = true
  | .databaseSeeder => ∃ text, d.read (databasePath s) = .ok text ∧
      ∀ patched, Seeder.patch text ≠ .patched patched

/-! ## Settled tasks -/

/-- Nothing happens from one state to another, but that files may be left alone. -/
def Idle (x y : State) : Prop := ∃ n, y = { x with summary := { x.summary with skipped := n } }

/-- Nothing happens in several idle steps. -/
theorem Idle.trans (h : Idle x y) (h' : Idle y z) : Idle x z := by
  obtain ⟨n, rfl⟩ := h
  obtain ⟨m, rfl⟩ := h'
  exact ⟨m, rfl⟩

/-- A settled task does nothing, and does not stop the run. -/
theorem perform_settled (start : Moment) (h : Settled s p.disk t) :
    ∃ p', perform s start p t = .ok p' ∧ Idle (state p) (state p') := by
  cases t with
  | announce message => exact ⟨_, rfl, p.summary.skipped, rfl⟩
  | migration a schema =>
    rw [perform]
    split
    next => exact ⟨_, rfl, p.summary.skipped + 1, rfl⟩
    next hnone => exact absurd hnone h
  | seeder dir className content =>
    have hentry : p.disk.hasEntry (Seeder.pathIn dir className) = true := h
    refine ⟨_, rfl, p.summary.skipped + 1, ?_⟩
    rw [makeSeeder, if_pos hentry]
    rfl
  | databaseSeeder =>
    obtain ⟨text, hread, hleft⟩ := h
    have hentry := Disk.hasEntry_of_read hread
    rw [databasePath] at hread hentry
    refine ⟨_, rfl, ?_⟩
    simp only [patchSeeder, hentry, if_true, hread]
    split
    next => exact ⟨p.summary.skipped + 1, rfl⟩
    next => exact ⟨p.summary.skipped, rfl⟩
    next patched hpatch => exact absurd hpatch (hleft patched)

/-- Settled tasks do nothing one after the other. -/
theorem foldlM_settled (start : Moment) {tasks : List Task} (h : ∀ t ∈ tasks, Settled s p.disk t) :
    ∃ p', tasks.foldlM (perform s start) p = .ok p' ∧ Idle (state p) (state p') := by
  induction tasks generalizing p with
  | nil => exact ⟨p, rfl, p.summary.skipped, rfl⟩
  | cons t rest ih =>
    obtain ⟨ht, hrest⟩ := List.forall_mem_cons.mp h
    obtain ⟨q, hq, hidle⟩ := perform_settled start ht
    have hdisk : q.disk = p.disk := by
      obtain ⟨n, hn⟩ := hidle
      exact congrArg State.disk hn
    obtain ⟨p', hp', hidle'⟩ := ih (p := q) (by rwa [hdisk])
    refine ⟨p', ?_, hidle.trans hidle'⟩
    rw [List.foldlM_cons, hq]
    exact hp'

/-- Directories that are there are not made. -/
theorem makeDirectories_of_present (dryRun : Bool) {dirs : List Path}
    (h : ∀ dir ∈ dirs, d.hasDirectory dir = true) :
    makeDirectories dryRun d dirs = (d, .ok ()) := by
  induction dirs with
  | nil => rfl
  | cons dir rest ih =>
    obtain ⟨hdir, hrest⟩ := List.forall_mem_cons.mp h
    rw [makeDirectories, makeDirectory, if_pos (.inr hdir)]
    exact ih hrest

/-- A run that finds its directories made and its tasks settled changes nothing. -/
theorem execute_of_settled (start : Moment) (hdirs : ∀ dir ∈ directories s, d.hasDirectory dir = true)
    (h : ∀ t ∈ Task.plan s set, Settled s d t) :
    (execute s start set d).disk = d ∧ ∃ summary,
      (execute s start set d).ending = .finished summary ∧ summary.written = [] ∧
        summary.isSuccess = true := by
  obtain ⟨p, hfold, n, hidle⟩ := foldlM_settled (p := begin s set d d) start h
  have hmade := makeDirectories_of_present s.dryRun hdirs
  have hexecute : execute s start set d =
      ⟨p.disk, (p.tell (.info "Finished.")).events, .finished p.summary⟩ := by
    rw [begin] at hfold
    simp only [execute, hmade, hfold]
  have hdisk : p.disk = d := congrArg State.disk hidle
  have hsummary : p.summary = { (begin s set d d).summary with skipped := n } :=
    congrArg State.summary hidle
  rw [hexecute, hdisk]
  exact ⟨rfl, p.summary, rfl, by rw [hsummary]; rfl, by rw [hsummary]; rfl⟩

/-! ## Steps settle their tasks -/

/-- Nothing has failed so far. -/
def Clean (x : State) : Prop := x.summary.failed = [] ∧ x.summary.seederFailures = []

/-- Something has failed when a migration has. -/
theorem not_clean_failed {n : ℕ} {summary : Summary} {f : Failure} :
    ¬Clean ⟨d, n, failed summary f⟩ :=
  fun h => by simpa [failed] using h.1

/-- Something has failed when a seeder has. -/
theorem not_clean_seederFailed {n : ℕ} {summary : Summary} {f : SeederFailure} :
    ¬Clean ⟨d, n, seederFailed summary f⟩ :=
  fun h => by simpa [seederFailed] using h.2

/-- What has failed stays in the summary. -/
theorem Step.clean (h : Step s start x t y) (hy : Clean y) : Clean x := by
  have hseeder : ∀ {dir className content}, SeederStep s dir className content x y → Clean x := by
    intro dir className content hseeder
    cases hseeder with
    | skipped hentry => exact hy
    | written d text hnone hsave => exact hy
    | failed e hnone hsave => exact absurd hy not_clean_seederFailed
  cases h with
  | announce message => exact hy
  | migrationSkipped a schema h => exact hy
  | migrationWritten a schema m d text h hm hsave => exact hy
  | migrationFailed a schema m e h hm hsave => exact absurd hy not_clean_failed
  | seeder _ dir className content h => exact hseeder h
  | databaseMade _ habsent h => exact hseeder h
  | databaseUnreadable fault hpresent h => exact absurd hy not_clean_seederFailed
  | databaseCalls text hpresent h hpatch => exact hy
  | databaseLeft text hpresent h hpatch => exact hy
  | databasePatched text patched d hpresent h hpatch hstore => exact hy
  | databaseUnwritable text patched fault hpresent h hpatch hstore =>
    exact absurd hy not_clean_seederFailed

/-- A migration that is written is found. -/
theorem findMigrations_of_write {a : Action} {table text : String} {m : Moment} {d' : Disk}
    (hyear : m.HasPlainYear) (hname : IsEntryName (Migration.fileName m a table))
    (hwrite : d.write (migrationPath s m a table) text = .ok d') :
    findMigrations d' s.migrationsDir a table ≠ [] := by
  have hkeeps := Disk.keepsDirectories_write hwrite
  have hlocate := Disk.locate_of_write_join hname (migrationsDir_ne_empty s) hwrite
  have hbase : d.placeOf s.migrationsDir <+: d.placeOf (migrationPath s m a table) := by
    rw [migrationPath, Disk.placeOf_join _ _ hname]
    exact List.prefix_append _ _
  rw [findMigrations_ne_nil, hkeeps.placeOf]
  exact ⟨⟨.directory, hkeeps.locate hlocate⟩, (seesMigration_write hwrite _ a table).mpr
    (.inr ⟨hbase, Disk.inReach_of_write hname hwrite, suffixAt?_migrationPath s d hyear hname⟩)⟩

/-- Making a seeder leaves something at its path, unless it fails. -/
theorem SeederStep.hasEntry (hreal : s.dryRun = false) {dir : Path} {className content : String}
    (h : SeederStep s dir className content x y) (hy : Clean y) :
    y.disk.hasEntry (Seeder.pathIn dir className) = true := by
  cases h with
  | skipped hentry => exact hentry
  | written d text hnone hsave => exact Disk.hasEntry_write (write_of_save hreal hsave).2
  | failed e hnone hsave => exact absurd hy not_clean_seederFailed

/-- A step of a real run under the built-in templates settles its task, unless it fails. -/
theorem Step.settles (hreal : s.dryRun = false) (htemplates : s.templatesDir = none)
    (hnames : PlainNames set) (ht : t ∈ Task.plan s set)
    (hyear : ∀ m, x.attempts < y.attempts → start.after? x.attempts = some m → m.HasPlainYear)
    (h : Step s start x t y) (hy : Clean y) : Settled s y.disk t := by
  cases h with
  | announce message => trivial
  | migrationSkipped a schema h => exact h
  | migrationWritten a schema m d text h hm hsave =>
    exact findMigrations_of_write (hyear m (Nat.lt_succ_self _) hm)
      (isEntryName_of_plan hnames ht m) (write_of_save hreal hsave).2
  | migrationFailed a schema m e h hm hsave => exact absurd hy not_clean_failed
  | seeder _ dir className content h => exact h.hasEntry hreal hy
  | databaseMade _ habsent h =>
    cases h with
    | skipped hentry =>
      rw [databasePath, hentry] at habsent
      cases habsent
    | written d text hnone hsave =>
      -- The text that is made has the call for its body, under the built-in template.
      obtain ⟨htext, hwrite⟩ := write_of_save hreal hsave
      have hbuiltin : s.templates.source x.disk = .builtin := by
        rw [Settings.templates, htemplates]
        rfl
      rw [hbuiltin] at htext
      refine ⟨text, Disk.read_write hwrite, fun patched hpatch => ?_⟩
      rw [Seeder.patch_classText Seeder.databaseClass_plain htext] at hpatch
      cases hpatch
    | failed e hnone hsave => exact absurd hy not_clean_seederFailed
  | databaseUnreadable fault hpresent h => exact absurd hy not_clean_seederFailed
  | databaseCalls text hpresent h hpatch => exact ⟨text, h, by simp [hpatch]⟩
  | databaseLeft text hpresent h hpatch => exact ⟨text, h, by simp [hpatch]⟩
  | databasePatched text patched d hpresent h hpatch hstore =>
    have hwrite : x.disk.write (databasePath s) patched = .ok d := by
      simpa [store, hreal] using hstore
    refine ⟨patched, Disk.read_write hwrite, fun again hagain => ?_⟩
    rw [Seeder.patch_patched hpatch] at hagain
    cases hagain
  | databaseUnwritable text patched fault hpresent h hpatch hstore =>
    exact absurd hy not_clean_seederFailed

/-! ## Settled tasks stay settled -/

/-- A step writes one text at most. -/
theorem Change.write_or_eq (h : Change s start x t y) :
    y.disk = x.disk ∨ ∃ path text, x.disk.write path text = .ok y.disk := by
  cases h with
  | nothing hdisk => exact .inl hdisk
  | migration a schema m text ht hnone hm hattempts hwrite => exact .inr ⟨_, text, hwrite⟩
  | seeder dir className text ht hnone hwrite => exact .inr ⟨_, text, hwrite⟩
  | patch text patched ht hread hpatch hwrite => exact .inr ⟨_, patched, hwrite⟩

/-- The disk grows in a step. -/
theorem Change.grows (h : Change s start x t y) : x.disk.Grows y.disk := by
  rcases h.write_or_eq with hdisk | ⟨path, text, hwrite⟩
  · rw [hdisk]
    exact .refl _
  · exact Disk.grows_write hwrite

/-- A migration that is found is found when the disk has grown. -/
theorem findMigrations_of_grows (h : d.Grows d') {dir : Path} {a : Action} {table : String}
    (hfound : findMigrations d dir a table ≠ []) : findMigrations d' dir a table ≠ [] := by
  rw [findMigrations_ne_nil, ← Disk.hasEntry_iff] at hfound ⊢
  obtain ⟨hdir, place, hsees, hsuffix⟩ := hfound
  exact ⟨h.hasEntry hdir, place, h.sees hsees, hsuffix⟩

/-- The application's seeder has the same text after a step that has nothing to patch. -/
theorem Change.read_database (hnames : PlainNames set) (ht : t ∈ Task.plan s set)
    (hyear : ∀ m, x.attempts < y.attempts → start.after? x.attempts = some m → m.HasPlainYear)
    (h : Change s start x t y) {text : String} (hread : x.disk.read (databasePath s) = .ok text)
    (hleft : ∀ patched, Seeder.patch text ≠ .patched patched) :
    y.disk.read (databasePath s) = .ok text := by
  refine h.keeps.read ?_ hread
  have hfile := Disk.find?_of_read hread
  cases h with
  | nothing hdisk => rw [hdisk]
  | migration a schema m text hmigration hnone hm hattempts hwrite =>
    subst hmigration
    -- The name of a migration has a stamp.
    have hmigrated := suffixAt?_migrationPath s x.disk (hyear m (by omega) hm)
      (isEntryName_of_plan hnames ht m)
    rw [Disk.find?_write hwrite, if_neg]
    intro hplace
    rw [← hplace, databasePath, suffixAt?_seederPath x.disk _ Seeder.databaseClass_plain] at hmigrated
    cases hmigrated
  | seeder dir className text hseeder hnone hwrite =>
    -- A seeder is written where nothing is.
    have hfree := Disk.find?_of_write_absent hnone hwrite
    rw [Disk.find?_write hwrite, if_neg]
    intro hplace
    rw [← hplace, hfile] at hfree
    cases hfree
  | patch text' patched hdatabase hread' hpatch hwrite =>
    obtain rfl : text = text' := Except.ok.inj (hread.symm.trans hread')
    exact absurd hpatch (hleft patched)

/-- A settled task stays settled through a step. -/
theorem Change.settled (hnames : PlainNames set) (ht : t ∈ Task.plan s set)
    (hyear : ∀ m, x.attempts < y.attempts → start.after? x.attempts = some m → m.HasPlainYear)
    (h : Change s start x t y) (hu : Settled s x.disk u) : Settled s y.disk u := by
  cases u with
  | announce message => trivial
  | migration a schema => exact findMigrations_of_grows h.grows hu
  | seeder dir className content => exact h.grows.hasEntry hu
  | databaseSeeder =>
    obtain ⟨text, hread, hleft⟩ := hu
    exact ⟨text, h.read_database hnames ht hyear hread hleft, hleft⟩

/-! ## Whole runs -/

/-- A step without failures settles its task and keeps settled what was settled before. -/
theorem Step.settled (hreal : s.dryRun = false) (htemplates : s.templatesDir = none)
    (hnames : PlainNames set) (ht : t ∈ Task.plan s set)
    (hyear : ∀ m, x.attempts < y.attempts → start.after? x.attempts = some m → m.HasPlainYear)
    (h : Step s start x t y) (hy : Clean y) {done : List Task}
    (hdone : Clean x → ∀ u ∈ done, Settled s x.disk u) :
    ∀ u ∈ done ++ [t], Settled s y.disk u := by
  intro u hu
  rcases List.mem_append.mp hu with hu | hu
  · exact (h.change hreal).settled hnames ht hyear (hdone (h.clean hy) u hu)
  · rw [List.mem_singleton.mp hu]
    exact h.settles hreal htemplates hnames ht hyear hy

/-- A real run under the built-in templates that has come so far without failures has settled the
tasks that it has performed. -/
theorem Reaches.settled (hreal : s.dryRun = false) (htemplates : s.templatesDir = none)
    (hnames : PlainNames set) (hstamps : PlainStamps s start set d) {done : List Task}
    (h : Reaches s start set d done p) :
    Clean (state p) → ∀ t ∈ done, Settled s (state p).disk t := by
  refine Reaches.induction
    (motive := fun done p => Clean (state p) → ∀ t ∈ done, Settled s (state p).disk t)
    (fun d' hmade _ t ht => absurd ht List.not_mem_nil)
    (fun done t p p' hreach hplanned hperform ih hclean => ?_) h
  have hyear : ∀ m, (state p).attempts < (state p').attempts →
      start.after? (state p).attempts = some m → m.HasPlainYear :=
    fun m hlt hm => hstamps _ _ _ m (hreach.snoc hplanned hperform) hlt hm
  exact (perform_step hperform).settled hreal htemplates hnames (hplanned.subset (by simp)) hyear
    hclean ih

/-- The directories of a run are named. -/
theorem directories_ne_empty (s : Settings) : ∀ dir ∈ directories s, ¬dir.text.isEmpty := by
  have hseeds : ¬s.seedsDir.text.isEmpty := by
    have hroot : ¬s.seedsRoot.text.isEmpty := Path.join_ne_empty _ _ (.inr (by decide))
    exact Path.join_ne_empty _ _ (.inl hroot)
  intro dir hdir
  rcases List.mem_cons.mp hdir with rfl | hdir
  · exact migrationsDir_ne_empty s
  · split at hdir
    · rwa [List.mem_singleton.mp hdir]
    · cases hdir

/-- The directories of a real run are there as long as it goes on. -/
theorem Reaches.hasDirectory (hreal : s.dryRun = false) (hstamps : PlainStamps s start set d)
    {done : List Task} (h : Reaches s start set d done p) :
    ∀ dir ∈ directories s, p.disk.hasDirectory dir = true := by
  intro dir hdir
  refine h.change_induction (motive := fun x => x.disk.hasDirectory dir = true) hreal hstamps
    (fun d' hmade => ?_) fun t x y _ _ hchange ih => hchange.keeps.hasDirectory ih
  rw [hreal] at hmade
  exact hasDirectory_makeDirectories hmade hdir (directories_ne_empty s dir hdir)

/-- Repeating a run changes nothing. If a real run under the built-in templates has ended without
failures, a run of the same settings and schemas on the disk that it has left ends without failures,
too, writes nothing and leaves the disk as it is, whenever it starts. The tables have names without
slashes, and the stamps of the first run have plain years. -/
theorem execute_again (hreal : s.dryRun = false) (htemplates : s.templatesDir = none)
    (hnames : PlainNames set) (hstamps : PlainStamps s start set d) {summary : Summary}
    (h : (execute s start set d).ending = .finished summary) (hsuccess : summary.isSuccess = true)
    (again : Moment) :
    (execute s again set (execute s start set d).disk).disk = (execute s start set d).disk ∧
      ∃ summary', (execute s again set (execute s start set d).disk).ending = .finished summary' ∧
        summary'.written = [] ∧ summary'.isSuccess = true := by
  rcases execute_cases s start set d with ⟨e, -, hending⟩ | ⟨p, hreach, hdisk, hending⟩ |
    ⟨done, p, -, -, hending, -⟩
  · rw [h] at hending
    cases hending
  · rw [h] at hending
    cases hending
    have hclean : Clean (state p) := by
      simpa [Summary.isSuccess, Summary.failures, Clean, state] using hsuccess
    rw [hdisk]
    exact execute_of_settled again (hreach.hasDirectory hreal hstamps)
      (hreach.settled hreal htemplates hnames hstamps hclean)
  · rw [h] at hending
    cases hending

/-- A run that patches the application's seeder, where the migration and the other seeders of a table
that is listed twice are there. The second run starts before the year 0. -/
theorem execute_again_patched :
    let s : Settings := { schema := ⟨"schema.json"⟩, seed := true }
    let start : Moment := ⟨2026, 12, 31, 23, 59, 59, by decide⟩
    let again : Moment := ⟨-1, 1, 1, 0, 0, 0, by decide⟩
    let set : SchemaSet := { create := [⟨"users", [], false⟩, ⟨"users", [], false⟩] }
    let d : Disk := ⟨[(["database"], .directory), (["database", "migrations"], .directory),
      (["database", "migrations", "civi"], .directory),
      (["database", "migrations", "civi", "2025_01_01_000000_create_users.php"], .file ⟨#[]⟩),
      (["database", "seeds"], .directory), (["database", "seeds", "civi"], .directory),
      (["database", "seeds", "civi", "UserSeeder.php"], .file ⟨#[]⟩),
      (["database", "seeds", "civi", "CiviDefaultSeeder.php"], .file ⟨#[]⟩),
      (["database", "seeds", "CiviDatabaseSeeder.php"], .file ⟨#[]⟩),
      (["database", "seeds", "DatabaseSeeder.php"], .file "run()\n    \x7b\n".toUTF8)],
      [], by decide⟩
    (execute s again set (execute s start set d).disk).disk = (execute s start set d).disk ∧
      ∃ summary', (execute s again set (execute s start set d).disk).ending = .finished summary' ∧
        summary'.written = [] ∧ summary'.isSuccess = true := by
  intro s start again set d
  have hnames : PlainNames set := plainNames_of_pairs (by decide)
  have hstamps : PlainStamps s start set d := plainStamps_of_pairs (by decide)
  have hfinished : ((execute s start set d).ending.finishedWith Summary.isSuccess) = true := by
    decide +kernel
  obtain ⟨summary, hending, hsuccess⟩ := Ending.exists_of_finishedWith hfinished
  exact execute_again rfl rfl hnames hstamps hending hsuccess again

end SchemaForge.Run
