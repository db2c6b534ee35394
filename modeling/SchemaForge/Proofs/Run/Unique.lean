import SchemaForge.Proofs.Run.Missed

/-!
# At most one migration of an action and table

A run writes a migration only when its search finds none of the same suffix, and the search sees the
directory of migrations as the run has left it so far, as deep as a walk can come; the files of
seeders have no stamps. So whatever runs there were before, no two files in that directory have names
that are equal without their stamps, unless one of them was there at first and no search can come to
it (`suffixesDistinct_of_history`). That exception is a real one: a run that succeeds doubles every
migration that it misses (`not_suffixesDistinct_of_missed`).

The directory of migrations is the location that its path names, whether or not it is there yet.
-/

namespace SchemaForge.Run

variable {s : Settings} {start : Moment} {set : SchemaSet} {d d' : Disk} {dir : Path}

/-- No two files in a directory have names that are equal without their stamps. -/
def SuffixesDistinct (d : Disk) (dir : Path) : Prop :=
  ∀ p q suffix, d.isFile p = true → d.isFile q = true → d.placeOf dir <+: p → d.placeOf dir <+: q →
    suffixAt? p = some suffix → suffixAt? q = some suffix → p = q

/-- A real run with given directories, for tables whose names have no slash, and with stamps whose
years have four digits. -/
structure IsPlainRun (databaseDir : Path) (path : String) (s : Settings) (start : Moment)
    (set : SchemaSet) (d : Disk) : Prop where
  /-- The run writes files. -/
  real : s.dryRun = false
  /-- The directory of migrations and seeders is given. -/
  databaseDir : s.databaseDir = databaseDir
  /-- The directory inside those of migrations and seeders is given. -/
  path : s.path = path
  /-- No table has a slash in its name. -/
  names : PlainNames set
  /-- Every year of a stamp has four digits. -/
  stamps : PlainStamps s start set d

/-- The disks of a history of runs: each run starts where the one before has ended or stopped. -/
inductive History (databaseDir : Path) (path : String) (d₀ : Disk) : Disk → Prop where
  /-- No run has started yet. -/
  | begins : History databaseDir path d₀ d₀
  /-- A run has come to its end. -/
  | ends (s : Settings) (start : Moment) (set : SchemaSet) (d : Disk)
      (h : History databaseDir path d₀ d) (hrun : IsPlainRun databaseDir path s start set d) :
      History databaseDir path d₀ (execute s start set d).disk
  /-- A run is under way. -/
  | passes (s : Settings) (start : Moment) (set : SchemaSet) (d d' : Disk)
      (h : History databaseDir path d₀ d) (hrun : IsPlainRun databaseDir path s start set d)
      (hpass : Passes s start set d d') : History databaseDir path d₀ d'

/-- No two files in a directory have names that are equal without their stamps, unless one of them
is a file that was missed on `d₀`. -/
def DistinctUnlessMissed (d₀ d : Disk) (dir : Path) : Prop :=
  ∀ p q suffix, d.isFile p = true → d.isFile q = true → d₀.placeOf dir <+: p →
    d₀.placeOf dir <+: q → suffixAt? p = some suffix → suffixAt? q = some suffix →
      p = q ∨ Missed d₀ dir p ∨ Missed d₀ dir q

/-- What runs keep of a disk `d₀` with distinct suffixes. -/
structure KeepsDistinct (dir : Path) (d₀ d : Disk) : Prop where
  /-- Relative paths start at the same directory. -/
  workDir : d.workDir = d₀.workDir
  /-- A walk can come to every file with a stamp, or has missed it at first. -/
  reach : ∀ p, d.isFile p = true → d₀.placeOf dir <+: p → (suffixAt? p).isSome →
    d₀.InReach dir p ∨ Missed d₀ dir p
  /-- No two others have equal suffixes. -/
  distinct : DistinctUnlessMissed d₀ d dir

variable {d₀ : Disk}

/-- A disk with distinct suffixes begins so. -/
theorem SuffixesDistinct.begins (h : SuffixesDistinct d dir) : KeepsDistinct dir d d where
  workDir := rfl
  reach p hp _ _ := (em (d.InReach dir p)).imp_right fun hmissed => ⟨hp, hmissed⟩
  distinct p q suffix hp hq hbase hbase' hsuffix hsuffix' :=
    .inl (h p q suffix hp hq hbase hbase' hsuffix hsuffix')

namespace KeepsDistinct

/-- A disk without further files keeps what another one keeps. -/
theorem of_files (h : KeepsDistinct dir d₀ d) (hworkDir : d'.workDir = d.workDir)
    (hfiles : ∀ place, d'.isFile place = true → d.isFile place = true) :
    KeepsDistinct dir d₀ d' where
  workDir := hworkDir.trans h.workDir
  reach p hp := h.reach p (hfiles p hp)
  distinct p q suffix hp hq := h.distinct p q suffix (hfiles p hp) (hfiles q hq)

/-- Nothing is lost when a file is added to which a walk can come and that is the only one of its
suffix that a walk sees. -/
theorem of_write (h : KeepsDistinct dir d₀ d) {p : Path} {text : String}
    (hwrite : d.write p text = .ok d')
    (hnew : ∀ suffix, suffixAt? (d.placeOf p) = some suffix → d.InReach dir (d.placeOf p) ∧
      ∀ q, d.Sees dir q → suffixAt? q ≠ some suffix) : KeepsDistinct dir d₀ d' := by
  have hfile := Disk.isFile_write hwrite
  -- An old file with the suffix of the new one is missed, since a walk would have seen it.
  have hmissed : ∀ q suffix, suffixAt? (d.placeOf p) = some suffix → d.isFile q = true →
      d₀.placeOf dir <+: q → suffixAt? q = some suffix → Missed d₀ dir q := by
    intro q suffix hsuffix hq hbase hsuffix'
    refine (h.reach q hq hbase (by rw [hsuffix']; rfl)).resolve_left fun hreach => ?_
    have hsees : d.Sees dir q :=
      ⟨hq, by rwa [Disk.placeOf_congr h.workDir], (Disk.inReach_congr h.workDir).mpr hreach⟩
    exact (hnew suffix hsuffix).2 q hsees hsuffix'
  refine ⟨(Disk.workDir_write hwrite).trans h.workDir, fun q hq hbase hsome => ?_,
    fun q q' suffix hq hq' hbase hbase' hsuffix hsuffix' => ?_⟩
  · rcases (hfile q).mp hq with rfl | hq
    · obtain ⟨suffix, hsuffix⟩ := Option.isSome_iff_exists.mp hsome
      exact .inl ((Disk.inReach_congr h.workDir).mp (hnew suffix hsuffix).1)
    · exact h.reach q hq hbase hsome
  · rcases (hfile q).mp hq with rfl | hq
    · rcases (hfile q').mp hq' with rfl | hq'
      · exact .inl rfl
      · exact .inr (.inr (hmissed q' suffix hsuffix hq' hbase' hsuffix'))
    · rcases (hfile q').mp hq' with rfl | hq'
      · exact .inr (.inl (hmissed q suffix hsuffix' hq hbase hsuffix))
      · exact h.distinct q q' suffix hq hq' hbase hbase' hsuffix hsuffix'

/-- A step keeps the files of the directory of migrations distinct. -/
theorem change (hnames : PlainNames set) {x y : State} {t : Task} (ht : t ∈ Task.plan s set)
    (hyear : ∀ m, x.attempts < y.attempts → start.after? x.attempts = some m → m.HasPlainYear)
    (hchange : Change s start x t y) (h : KeepsDistinct s.migrationsDir d₀ x.disk) :
    KeepsDistinct s.migrationsDir d₀ y.disk := by
  -- Only a migration has a suffix of its own; its search came up empty.
  cases hchange with
  | nothing hdisk => rwa [hdisk]
  | migration a schema m text hmigration hnone hm hattempts hwrite =>
    subst hmigration
    have hname := isEntryName_of_plan hnames ht m
    refine h.of_write hwrite fun suffix hsuffix => ⟨Disk.inReach_of_write hname hwrite, ?_⟩
    intro q hsees hsuffix'
    rw [suffixAt?_migrationPath s x.disk (hyear m (by omega) hm) hname] at hsuffix
    exact not_seesMigration hname hnone hwrite ⟨q, hsees, hsuffix'.trans hsuffix.symm⟩
  | seeder dir className text hseeder hnone hwrite =>
    refine h.of_write hwrite fun suffix hsuffix => ?_
    rw [suffixAt?_seederPath x.disk dir (plain_of_plan ht hseeder)] at hsuffix
    cases hsuffix
  | patch text patched hdatabase hread hpatch hwrite =>
    have hfile : x.disk.isFile (x.disk.placeOf (databasePath s)) = true :=
      Disk.isFile_iff.mpr ⟨_, Disk.find?_of_read hread⟩
    refine h.of_files (Disk.workDir_write hwrite) fun place hplace => ?_
    rcases (Disk.isFile_write hwrite place).mp hplace with rfl | hplace
    · exact hfile
    · exact hplace

/-- Whatever a run passes through, the files of its directory of migrations stay distinct. -/
theorem passes (hreal : s.dryRun = false) (hnames : PlainNames set)
    (hstamps : PlainStamps s start set d) (h : KeepsDistinct s.migrationsDir d₀ d)
    (hpass : Passes s start set d d') : KeepsDistinct s.migrationsDir d₀ d' := by
  have hmade : ∀ dirs,
      KeepsDistinct s.migrationsDir d₀ (makeDirectories s.dryRun d dirs).1 := by
    intro dirs
    have hadds := addsDirectories_makeDirectories s.dryRun d dirs
    exact h.of_files hadds.workDir fun place hplace => by rwa [← hadds.isFile]
  cases hpass with
  | directories dirs hdirs => exact hmade dirs
  | tasks done p hreach =>
    refine hreach.change_induction
      (motive := fun x => KeepsDistinct s.migrationsDir d₀ x.disk)
      hreal hstamps (fun d' hdirs => ?_)
      fun t x y ht hyear hchange ih => ih.change hnames ht hyear hchange
    have hdistinct := hmade (directories s)
    rw [hdirs] at hdistinct
    exact hdistinct

/-- Whatever runs there were, the files of their directory of migrations stay distinct. -/
theorem of_history {databaseDir : Path} {path : String} (h : History databaseDir path d₀ d)
    (hbegins : SuffixesDistinct d₀ ((databaseDir.join "migrations").join path)) :
    KeepsDistinct ((databaseDir.join "migrations").join path) d₀ d := by
  have hpasses : ∀ {s : Settings} {start : Moment} {set : SchemaSet} {d d' : Disk},
      KeepsDistinct ((databaseDir.join "migrations").join path) d₀ d →
      IsPlainRun databaseDir path s start set d → Passes s start set d d' →
      KeepsDistinct ((databaseDir.join "migrations").join path) d₀ d' := by
    intro s start set d d' hkeeps hrun hpass
    obtain ⟨hreal, rfl, rfl, hnames, hstamps⟩ := hrun
    exact hkeeps.passes hreal hnames hstamps hpass
  -- The induction is on the runs; each starts on the disk that the one before has left.
  induction h with
  | begins => exact hbegins.begins
  | ends s start set d h hrun ih => exact hpasses ih hrun (passes_execute s start set d)
  | passes s start set d d' h hrun hpass ih => exact hpasses ih hrun hpass

/-- The files are distinct if a walk could come to every file with a stamp at first. -/
theorem suffixesDistinct (h : KeepsDistinct dir d₀ d) (hreach : StampsInReach d₀ dir) :
    SuffixesDistinct d dir := by
  have hnone : ∀ p suffix, d₀.placeOf dir <+: p → suffixAt? p = some suffix → ¬Missed d₀ dir p :=
    fun p suffix hbase hsuffix ⟨hfile, hmissed⟩ =>
      hmissed (hreach p hfile hbase (by rw [hsuffix]; rfl))
  intro p q suffix hp hq hbase hbase' hsuffix hsuffix'
  rw [Disk.placeOf_congr h.workDir] at hbase hbase'
  exact (h.distinct p q suffix hp hq hbase hbase' hsuffix hsuffix').resolve_right
    (not_or.mpr ⟨hnone p suffix hbase hsuffix, hnone q suffix hbase' hsuffix'⟩)

end KeepsDistinct

/-- However many runs with the same directory of migrations have ended or stopped, no two files in
it have names that are equal without their stamps if that was so before the first, but for files
that were there at first and that no search can come to. So there are no two at all if a search can
come to every file with a stamp at first. -/
theorem suffixesDistinct_of_history {databaseDir : Path} {path : String} {d₀ d : Disk}
    (h : History databaseDir path d₀ d)
    (hbegins : SuffixesDistinct d₀ ((databaseDir.join "migrations").join path)) :
    DistinctUnlessMissed d₀ d ((databaseDir.join "migrations").join path) ∧
      (StampsInReach d₀ ((databaseDir.join "migrations").join path) →
        SuffixesDistinct d ((databaseDir.join "migrations").join path)) :=
  have hkeeps := KeepsDistinct.of_history h hbegins
  ⟨hkeeps.distinct, hkeeps.suffixesDistinct⟩

/-- Two runs on a disk with nothing but templates: the first makes a migration for one table, and
the second, two years later, finds it and makes one for another table. -/
theorem suffixesDistinct_of_history_twice :
    let s : Settings := { schema := ⟨"schema.json"⟩, templatesDir := some ⟨"stubs"⟩ }
    let start : Moment := ⟨2024, 3, 7, 9, 5, 42, by decide⟩
    let start' : Moment := ⟨2026, 10, 5, 12, 0, 0, by decide⟩
    let set : SchemaSet := { create := [⟨"users", [], false⟩] }
    let set' : SchemaSet := { create := [⟨"users", [], false⟩, ⟨"posts", [], false⟩] }
    let d₀ : Disk := ⟨[(["stubs"], .directory),
      (["stubs", "migration.stub"], .file "\x7b\x7bclass\x7d\x7d".toUTF8),
      (["stubs", "schema-create.stub"], .file "".toUTF8)], [], by decide⟩
    let d := (execute s start' set' (execute s start set d₀).disk).disk
    d.entries.map (·.1) = d₀.entries.map (·.1) ++ [["database"], ["database", "migrations"],
      ["database", "migrations", "civi"],
      ["database", "migrations", "civi", "2024_03_07_090542_create_users.php"],
      ["database", "migrations", "civi", "2026_10_05_120000_create_posts.php"]] ∧
    SuffixesDistinct d s.migrationsDir := by
  intro s start start' set set' d₀ d
  let entries : List (Location × Entry) := d₀.entries ++
    [(["database"], .directory), (["database", "migrations"], .directory),
      (["database", "migrations", "civi"], .directory),
      (["database", "migrations", "civi", "2024_03_07_090542_create_users.php"],
        .file "CreateUsers".toUTF8)]
  obtain ⟨hentries, hworkDir⟩ : (execute s start set d₀).disk.entries = entries ∧
      (execute s start set d₀).disk.workDir = [] := by decide +kernel
  have hdisk : (execute s start set d₀).disk = ⟨entries, [], by decide⟩ :=
    Disk.eq_mk hentries hworkDir
  have hplaces : (execute s start' set' ⟨entries, [], by decide⟩).disk.entries.map (·.1) =
      d₀.entries.map (·.1) ++ [["database"], ["database", "migrations"],
        ["database", "migrations", "civi"],
        ["database", "migrations", "civi", "2024_03_07_090542_create_users.php"],
        ["database", "migrations", "civi", "2026_10_05_120000_create_posts.php"]] := by
    decide +kernel
  rw [← hdisk] at hplaces
  have hfirst : IsPlainRun s.databaseDir s.path s start set d₀ :=
    ⟨rfl, rfl, rfl, plainNames_of_pairs (by decide), plainStamps_of_pairs (by decide)⟩
  have hsecond : IsPlainRun s.databaseDir s.path s start' set' (execute s start set d₀).disk :=
    ⟨rfl, rfl, rfl, plainNames_of_pairs (by decide), plainStamps_of_pairs (by decide)⟩
  have hhistory : History s.databaseDir s.path d₀ d :=
    .ends s start' set' _ (.ends s start set _ .begins hfirst) hsecond
  have hnone : ∀ p suffix, d₀.isFile p = true → suffixAt? p ≠ some suffix := by
    have hentries : ∀ place ∈ d₀.entries.map (·.1), suffixAt? place = none := by decide +kernel
    intro p suffix hp hsuffix
    cases (hentries p (Disk.mem_entries_of_isFile hp)).symm.trans hsuffix
  have hdistinct : SuffixesDistinct d₀ s.migrationsDir :=
    fun p _ suffix hp _ _ _ hsuffix => absurd hsuffix (hnone p suffix hp)
  have hreach : StampsInReach d₀ s.migrationsDir := by
    intro p hp _ hsome
    obtain ⟨suffix, hsuffix⟩ := Option.isSome_iff_exists.mp hsome
    exact absurd hsuffix (hnone p suffix hp)
  exact ⟨hplaces, (suffixesDistinct_of_history hhistory hdistinct).2 hreach⟩

/-! ## Migrations that are missed -/

/-- A run that ends without failures doubles every migration of its pairs that its search misses. -/
theorem not_suffixesDistinct_of_missed (hreal : s.dryRun = false) (hnames : PlainNames set)
    (hstamps : PlainStamps s start set d) {summary : Summary}
    (h : (execute s start set d).ending = .finished summary) (hsuccess : summary.isSuccess = true)
    {a : Action} {schema : Schema} (hpair : (a, schema) ∈ pairs set)
    (hthere : HasMigration d s.migrationsDir a schema.name)
    (hmissed : ¬SeesMigration d s.migrationsDir a schema.name) :
    ¬SuffixesDistinct (execute s start set d).disk s.migrationsDir := by
  intro hdistinct
  obtain ⟨old, hold, hbelow, hsuffix⟩ := hthere
  obtain ⟨new, hsees, hsuffix'⟩ :=
    seesMigration_execute hreal hnames hstamps h hsuccess hpair
  have hgrows : d.Grows (execute s start set d).disk := by
    obtain ⟨p, hreach, -⟩ := exists_reaches_of_finished h
    rw [hreach.disk_execute]
    exact hreach.grows hreal hnames
  -- The two would be the same, but a search comes to one of them only.
  obtain rfl : old = new := by
    refine hdistinct old new _ (hgrows.isFile old hold) hsees.isFile ?_ hsees.below hsuffix hsuffix'
    rwa [hgrows.placeOf]
  exact hmissed ⟨old, ⟨hold, hbelow, (Disk.inReach_congr hgrows.workDir).mp hsees.inReach⟩, hsuffix⟩

/-- So distinct suffixes are not kept where a search misses a migration: its path is short enough,
but the path that the search takes to its directory is not. -/
theorem not_suffixesDistinct_of_history :
    ¬∀ (databaseDir : Path) (path : String) (d₀ d : Disk), History databaseDir path d₀ d →
      SuffixesDistinct d₀ ((databaseDir.join "migrations").join path) →
        SuffixesDistinct d ((databaseDir.join "migrations").join path) := by
  intro hkept
  obtain ⟨summary, hending, hsuccess⟩ := deep_succeeds
  have hnames : PlainNames usersSet := plainNames_of_pairs (by decide)
  have hstamps : PlainStamps dottedSettings deepStart usersSet deepDisk :=
    plainStamps_of_pairs (by decide)
  have hhistory : History dottedSettings.databaseDir dottedSettings.path deepDisk
      (execute dottedSettings deepStart usersSet deepDisk).disk :=
    .ends _ _ _ _ .begins ⟨rfl, rfl, rfl, hnames, hstamps⟩
  have hdistinct : SuffixesDistinct deepDisk dottedSettings.migrationsDir :=
    fun p q _ hp hq _ _ _ _ => (eq_deepPlace hp).trans (eq_deepPlace hq).symm
  have hpair : (.create, ⟨"users", [], false⟩) ∈ pairs usersSet := by simp [pairs_usersSet]
  exact not_suffixesDistinct_of_missed rfl hnames hstamps hending hsuccess hpair hasMigration_deep
    not_seesMigration_deep (hkept _ _ _ _ hhistory hdistinct)

end SchemaForge.Run
