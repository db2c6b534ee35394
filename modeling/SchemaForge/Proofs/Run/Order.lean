import SchemaForge.Proofs.Calendar.Order
import SchemaForge.Proofs.Run.Reach

/-!
# Migrations in the order of a run

Each migration that a run attempts takes the next second, also if it fails in the end, and one that
is there already takes none. So the migrations that a run lists have stamps of increasing numbers of
seconds (`Issues`), and their names sort in the order in which the run has made them
(`execute_sorted`): over the ends of minutes, hours, days, months and years, in dry runs and real
ones.
-/

namespace SchemaForge.Run

variable {s : Settings} {start : Moment} {set : SchemaSet} {d : Disk}

/-- The paths of the migrations that a summary lists, in order. -/
def migrationPaths (x : Summary) : List Path :=
  (x.written.filter fun f => f.kind = .migration).map GeneratedFile.path

/-- A migration of a run, with the number of seconds that its stamp is after the start. -/
structure Issued where
  /-- The number of seconds. -/
  index : ℕ
  /-- The moment of the stamp. -/
  moment : Moment
  /-- The action. -/
  action : Action
  /-- The schema. -/
  schema : Schema

/-- The name of the file of an issued migration. -/
def Issued.name (r : Issued) : String := Migration.fileName r.moment r.action r.schema.name

/-- A run has issued the migrations that its summary lists, each for an attempt of its own and a
schema of its set. -/
structure Issues (s : Settings) (start : Moment) (set : SchemaSet) (x : State)
    (issued : List Issued) : Prop where
  /-- They are the migrations of the summary. -/
  paths : migrationPaths x.summary = issued.map fun r => s.migrationsDir.join r.name
  /-- Their seconds increase. -/
  increasing : issued.Pairwise fun r r' => r.index < r'.index
  /-- Each took the seconds of its attempt. -/
  attempted : ∀ r ∈ issued, r.index < x.attempts ∧ start.after? r.index = some r.moment
  /-- Each is of a schema that is not dropped. -/
  active : ∀ r ∈ issued, r.schema ∈ set.active r.action

/-! ## What a step issues -/

/-- A seeder is no migration. -/
theorem SeederStep.migrationPaths_eq {dir : Path} {className content : String} {x y : State}
    (h : SeederStep s dir className content x y) :
    migrationPaths y.summary = migrationPaths x.summary ∧ y.attempts = x.attempts := by
  cases h with
  | skipped hentry => exact ⟨rfl, rfl⟩
  | written d text hnone hsave => simp [migrationPaths, wrote]
  | failed e hnone hsave => exact ⟨rfl, rfl⟩

/-- A step lists one migration at most, with the stamp of the attempt that it takes. -/
theorem Step.migrationPaths_cases {x y : State} {t : Task} (h : Step s start x t y) :
    (migrationPaths y.summary = migrationPaths x.summary ∧ x.attempts ≤ y.attempts) ∨
    ∃ a schema m, t = .migration a schema ∧ start.after? x.attempts = some m ∧
      y.attempts = x.attempts + 1 ∧
      migrationPaths y.summary = migrationPaths x.summary ++ [migrationPath s m a schema.name] := by
  cases h with
  | migrationWritten a schema m d text hnone hm hsave =>
    exact .inr ⟨a, schema, m, rfl, hm, rfl, by simp [migrationPaths, wrote]⟩
  | migrationFailed a schema m e hnone hm hsave => exact .inl ⟨rfl, Nat.le_succ _⟩
  | seeder _ dir className content hseeder =>
    exact .inl ⟨hseeder.migrationPaths_eq.1, hseeder.migrationPaths_eq.2.ge⟩
  | databaseMade _ habsent hseeder =>
    exact .inl ⟨hseeder.migrationPaths_eq.1, hseeder.migrationPaths_eq.2.ge⟩
  | _ => exact .inl ⟨rfl, le_rfl⟩

/-- A step issues one migration at most, later than all before. -/
theorem Issues.step {x y : State} {t : Task} {issued : List Issued}
    (h : Issues s start set x issued) (ht : t ∈ Task.plan s set) (hstep : Step s start x t y) :
    ∃ issued', Issues s start set y issued' := by
  rcases hstep.migrationPaths_cases with ⟨hpaths, hattempts⟩ |
    ⟨a, schema, m, rfl, hm, hattempts, hpaths⟩
  · refine ⟨issued, hpaths.trans h.paths, h.increasing, fun r hr => ?_, h.active⟩
    obtain ⟨hlt, hmoment⟩ := h.attempted r hr
    exact ⟨by omega, hmoment⟩
  · refine ⟨issued ++ [⟨x.attempts, m, a, schema⟩], ?_, ?_, ?_, ?_⟩
    · rw [hpaths, h.paths, List.map_append]
      rfl
    · refine List.pairwise_append.mpr ⟨h.increasing, List.pairwise_singleton _ _, ?_⟩
      intro r hr r' hr'
      rw [List.mem_singleton.mp hr']
      exact (h.attempted r hr).1
    · intro r hr
      rcases List.mem_append.mp hr with hr | hr
      · obtain ⟨hlt, hmoment⟩ := h.attempted r hr
        exact ⟨by omega, hmoment⟩
      · rw [List.mem_singleton.mp hr]
        exact ⟨by dsimp only; omega, hm⟩
    · intro r hr
      rcases List.mem_append.mp hr with hr | hr
      · exact h.active r hr
      · rw [List.mem_singleton.mp hr]
        exact mem_active_of_plan ht

/-- A run issues the migrations that it lists. -/
theorem Reaches.issues {done : List Task} {p : Progress} (h : Reaches s start set d done p) :
    ∃ issued, Issues s start set (state p) issued := by
  refine Reaches.induction (motive := fun _ p => ∃ issued, Issues s start set (state p) issued)
    (fun d' hmade => ⟨[], rfl, .nil, fun _ hr => absurd hr List.not_mem_nil,
      fun _ hr => absurd hr List.not_mem_nil⟩)
    (fun done t p p' hreach hplanned hperform ih => ?_) h
  obtain ⟨issued, hissued⟩ := ih
  exact hissued.step (hplanned.subset (by simp)) (perform_step hperform)

/-! ## The order of the names -/

/-- Names of migrations are joined to a directory by putting them behind one and the same text. -/
theorem exists_join_fileName (dir : Path) : ∃ front, ∀ (m : Moment) (a : Action) (table : String),
    (dir.join (Migration.fileName m a table)).text.toList =
      front ++ (Migration.fileName m a table).toList := by
  -- A name that starts with a slash would replace the directory.
  have hhead : ∀ (m : Moment) (a : Action) (table : String),
      (Migration.fileName m a table).toList.head? ≠ some '/' := by
    intro m a table h
    simp only [Migration.fileName, String.toList_append, String.toList_ofList] at h
    cases hstamp : m.stamp with
    | nil =>
      rw [hstamp] at h
      cases h
    | cons c rest =>
      rw [hstamp] at h
      cases h
      exact m.noSlash_stamp (by rw [hstamp]; simp)
  by_cases hslash : dir.text.toList.getLast?.all (· == '/') = true
  · refine ⟨dir.text.toList, fun m a table => ?_⟩
    rw [Path.join, if_neg (hhead m a table), if_pos hslash, String.toList_append]
  · refine ⟨dir.text.toList ++ ['/'], fun m a table => ?_⟩
    rw [Path.join, if_neg (hhead m a table), if_neg hslash, String.toList_append,
      String.toList_append]
    rfl

/-- The name of a migration's file ends in a letter. -/
theorem getLast?_fileName (m : Moment) (a : Action) (table : String) :
    (Migration.fileName m a table).toList.getLast? = some 'p' := by
  have hends : (Migration.fileName m a table).toList = (m.stamp ++ '_' :: (a.keyword.toList ++
      '_' :: (table.toList ++ ['.', 'p', 'h']))) ++ ['p'] := by
    simp [Migration.fileName, Migration.suffix, codeExtension]
  rw [hends, List.getLast?_concat]

/-- The migrations that a finished run lists sort in the order in which it made them. They are files
in the directory of migrations, each named for the stamp of its attempt, its action and its table;
their names increase in byte order, and so do their paths. The stamps must have years of four digits,
and nothing else is asked: not of the schemas, not of the disk, and the run may be dry. Where no
table has a slash in its name, the names are the last ones of the paths. -/
theorem execute_sorted {summary : Summary} (hstamps : PlainStamps s start set d)
    (h : (execute s start set d).ending = .finished summary) :
    ∃ names : List String, migrationPaths summary = names.map s.migrationsDir.join ∧
      names.Pairwise Text.ByteLt ∧
      (migrationPaths summary).Pairwise (fun p q => Text.ByteLt p.text q.text) ∧
      (∀ name ∈ names, ∃ k m a, ∃ schema ∈ set.active a, start.after? k = some m ∧
        name = Migration.fileName m a schema.name) ∧
      (PlainNames set → (migrationPaths summary).map Path.fileName? = names.map some) := by
  obtain ⟨p, hreach, hsummary⟩ := exists_reaches_of_finished h
  obtain ⟨issued, hissued⟩ := hreach.issues
  -- The listed paths are those of the issued migrations, so only their seconds matter.
  have hpaths : migrationPaths summary = issued.map fun r => s.migrationsDir.join r.name := by
    rw [← hsummary]
    exact hissued.paths
  have hplain : ∀ r ∈ issued, r.moment.HasPlainYear := by
    intro r hr
    obtain ⟨hlt, hmoment⟩ := hissued.attempted r hr
    exact hstamps _ p r.index r.moment hreach hlt hmoment
  -- The stamps of any two of them are in the order of their seconds.
  have hprecedes : issued.Pairwise fun r r' => Text.Precedes r.name.toList r'.name.toList := by
    refine hissued.increasing.imp_of_mem fun {r r'} hr hr' hlt => ?_
    have hbefore := Moment.isBefore_of_after? hlt (hissued.attempted r hr).2
      (hissued.attempted r' hr').2
    exact Migration.precedes_fileName (hplain r hr) (hplain r' hr') hbefore _ _ _ _
  refine ⟨issued.map Issued.name, ?_, ?_, ?_, ?_, ?_⟩
  · rw [hpaths, List.map_map]
    rfl
  · rw [List.pairwise_map]
    exact hprecedes.imp Text.byteLt_of_precedes
  · obtain ⟨front, hfront⟩ := exists_join_fileName s.migrationsDir
    rw [hpaths, List.pairwise_map]
    refine hprecedes.imp fun {r r'} hrr' => Text.byteLt_of_precedes ?_
    rw [Issued.name, Issued.name, hfront, hfront]
    exact hrr'.prepend front
  · intro name hname
    obtain ⟨r, hr, rfl⟩ := List.mem_map.mp hname
    exact ⟨r.index, r.moment, r.action, r.schema, hissued.active r hr, (hissued.attempted r hr).2,
      rfl⟩
  · intro hnames
    rw [hpaths, List.map_map, List.map_map]
    refine List.map_congr_left fun r hr => ?_
    have hslash : '/' ∉ r.name.toList :=
      (Migration.isEntryName_fileName r.moment r.action (hnames _ _ (hissued.active r hr))).noSlash
    have hlast : r.name.toList.getLast? = some 'p' := getLast?_fileName _ _ _
    have hname := Path.fileName?_join s.migrationsDir hslash hlast (by decide)
    rw [Function.comp_apply, Function.comp_apply, hname]

/-- Two migrations that a dry run would write, one in the last second of a year and one in the first
of the next. -/
theorem execute_sorted_new_year :
    let s : Settings := { schema := ⟨"schema.json"⟩, templatesDir := some ⟨"stubs"⟩, dryRun := true }
    let start : Moment := ⟨2023, 12, 31, 23, 59, 59, by decide⟩
    let set : SchemaSet := { create := [⟨"users", [], false⟩, ⟨"posts", [], false⟩] }
    let d : Disk := ⟨[(["stubs"], .directory),
      (["stubs", "migration.stub"], .file "\x7b\x7bclass\x7d\x7d".toUTF8),
      (["stubs", "schema-create.stub"], .file "".toUTF8)], [], by decide⟩
    ∃ (summary : Summary) (names : List String),
      (execute s start set d).ending = .finished summary ∧
      (migrationPaths summary).length = 2 ∧
      migrationPaths summary = names.map s.migrationsDir.join ∧ names.Pairwise Text.ByteLt := by
  intro s start set d
  have hstamps : PlainStamps s start set d := plainStamps_of_pairs (by decide)
  have hfinished : ((execute s start set d).ending.finishedWith fun summary =>
      decide ((migrationPaths summary).length = 2)) = true := by decide +kernel
  obtain ⟨summary, hending, hcheck⟩ := Ending.exists_of_finishedWith hfinished
  obtain ⟨names, hpaths, hsorted, -⟩ := execute_sorted hstamps hending
  exact ⟨summary, names, hending, of_decide_eq_true hcheck, hpaths, hsorted⟩

end SchemaForge.Run
