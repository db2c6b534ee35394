import SchemaForge.Proofs.Run.Reach

/-!
# What a step writes

A step of a real run writes one file at most: a migration when a search sees none of its action and
table, a seeder where nothing is, or the patched text of the application's seeder in the place of
the old one (`Change`). The files of seeders have names without an underscore
(`plain_of_plan`), so they are never migrations.

A migration that is there (`HasMigration`) is seen by a search if its directory can be opened by its
path from the directory of migrations (`SeesMigration`, `seesMigration_iff`).
-/

namespace SchemaForge.Run

open Text (IsPlain)

variable {s : Settings} {start : Moment} {set : SchemaSet} {d : Disk}

/-! ## Migrations that exist -/

/-- What follows the stamp in the name of the file at a location. -/
def suffixAt? (place : Location) : Option String := place.getLast?.bind Migration.stripStamp?

/-- A migration of an action and table lies at a path or anywhere below it. -/
def HasMigration (d : Disk) (dir : Path) (a : Action) (table : String) : Prop :=
  ∃ place, d.isFile place = true ∧ d.placeOf dir <+: place ∧
    suffixAt? place = some (Migration.suffix a table)

/-- A walk from a path sees a migration of an action and table. -/
def SeesMigration (d : Disk) (dir : Path) (a : Action) (table : String) : Prop :=
  ∃ place, d.Sees dir place ∧ suffixAt? place = some (Migration.suffix a table)

/-- A walk from a path can come to every file below it that has a stamp. -/
def StampsInReach (d : Disk) (dir : Path) : Prop :=
  ∀ place, d.isFile place = true → d.placeOf dir <+: place → (suffixAt? place).isSome →
    d.InReach dir place

/-- A walk that can come to every file with a stamp sees the migrations that there are. -/
theorem seesMigration_iff {dir : Path} (h : StampsInReach d dir) (a : Action) (table : String) :
    SeesMigration d dir a table ↔ HasMigration d dir a table := by
  constructor
  · rintro ⟨place, hsees, hsuffix⟩
    exact ⟨place, hsees.isFile, hsees.below, hsuffix⟩
  · rintro ⟨place, hfile, hbelow, hsuffix⟩
    exact ⟨place, ⟨hfile, hbelow, h place hfile hbelow (by rw [hsuffix]; rfl)⟩, hsuffix⟩

/-- A walk can come to every file if it can come to the location of every entry. -/
theorem stampsInReach_of_entries {dir : Path} (h : ∀ e ∈ d.entries, d.InReach dir e.1) :
    StampsInReach d dir := by
  intro place hfile _ _
  obtain ⟨e, he, rfl⟩ := List.mem_map.mp (Disk.mem_entries_of_isFile hfile)
  exact h e he

/-- A search finds a migration when its directory can be followed and a walk from there sees one. -/
theorem findMigrations_ne_nil {dir : Path} {a : Action} {table : String} :
    findMigrations d dir a table ≠ [] ↔
      (∃ entry, d.locate dir = .ok (.present (d.placeOf dir) entry)) ∧
        SeesMigration d dir a table := by
  have hname : ∀ place : Location,
      (place.getLast?.any fun name => Migration.isFor name a table) = true ↔
        suffixAt? place = some (Migration.suffix a table) := by
    intro place
    rw [suffixAt?]
    cases place.getLast? with
    | none => simp
    | some name => simp [Migration.isFor]
  constructor
  · intro h
    obtain ⟨found, hfound⟩ := List.exists_mem_of_ne_nil _ h
    obtain ⟨⟨place, names⟩, hmem, hif⟩ := List.mem_filterMap.mp hfound
    obtain ⟨hlocate, hsees⟩ := Disk.mem_filesUnder.mp ⟨names, hmem⟩
    dsimp only at hif
    split at hif
    next hany => exact ⟨hlocate, place, hsees, (hname place).mp hany⟩
    next => cases hif
  · rintro ⟨hlocate, place, hsees, hsuffix⟩
    obtain ⟨names, hmem⟩ := Disk.mem_filesUnder.mpr ⟨hlocate, hsees⟩
    have hany := (hname place).mpr hsuffix
    exact List.ne_nil_of_mem
      (List.mem_filterMap.mpr ⟨(place, names), hmem, by dsimp only; rw [if_pos hany]⟩)

/-- After a file is written, a walk sees a migration at most more: the file itself. -/
theorem seesMigration_write {p : Path} {text : String} {d' : Disk}
    (hwrite : d.write p text = .ok d') (dir : Path) (a : Action) (table : String) :
    SeesMigration d' dir a table ↔ SeesMigration d dir a table ∨
      d.placeOf dir <+: d.placeOf p ∧ d.InReach dir (d.placeOf p) ∧
        suffixAt? (d.placeOf p) = some (Migration.suffix a table) := by
  constructor
  · rintro ⟨place, hsees, hsuffix⟩
    rcases (Disk.sees_write hwrite).mp hsees with hold | ⟨rfl, hbelow, hreach⟩
    · exact .inl ⟨place, hold, hsuffix⟩
    · exact .inr ⟨hbelow, hreach, hsuffix⟩
  · rintro (⟨place, hsees, hsuffix⟩ | ⟨hbelow, hreach, hsuffix⟩)
    · exact ⟨place, (Disk.sees_write hwrite).mpr (.inl hsees), hsuffix⟩
    · exact ⟨_, (Disk.sees_write hwrite).mpr (.inr ⟨rfl, hbelow, hreach⟩), hsuffix⟩

/-- A migration that can be written into a directory where none is found is the first that a walk
sees there. -/
theorem not_seesMigration {a : Action} {table : String} {name text : String} {d' : Disk}
    (hname : IsEntryName name) (hnone : findMigrations d s.migrationsDir a table = [])
    (hwrite : d.write (s.migrationsDir.join name) text = .ok d') :
    ¬SeesMigration d s.migrationsDir a table := by
  intro h
  have hlocate := Disk.locate_of_write_join hname (migrationsDir_ne_empty s) hwrite
  exact findMigrations_ne_nil.mpr ⟨⟨.directory, hlocate⟩, h⟩ hnone

/-! ## Changes -/

/-- The directory and the class of the seeder that a task can make. -/
def seederOf? (s : Settings) : Task → Option (Path × String)
  | .seeder dir className _ => some (dir, className)
  | .databaseSeeder => some (s.seedsRoot, Seeder.databaseClass)
  | _ => none

/-- What a step of a real run makes of the disk and of the list of written files. -/
inductive Change (s : Settings) (start : Moment) (x : State) (t : Task) (y : State) : Prop where
  /-- Nothing is written. -/
  | nothing (hdisk : y.disk = x.disk) (hwritten : y.summary.written = x.summary.written)
  /-- A migration is written. -/
  | migration (a : Action) (schema : Schema) (m : Moment) (text : String)
      (ht : t = .migration a schema)
      (hnone : findMigrations x.disk s.migrationsDir a schema.name = [])
      (hm : start.after? x.attempts = some m) (hattempts : y.attempts = x.attempts + 1)
      (hwrite : x.disk.write (migrationPath s m a schema.name) text = .ok y.disk)
      (hwritten : y.summary.written =
        x.summary.written ++ [⟨migrationPath s m a schema.name, text, .migration⟩])
  /-- A seeder is written. -/
  | seeder (dir : Path) (className text : String) (ht : seederOf? s t = some (dir, className))
      (hnone : x.disk.hasEntry (Seeder.pathIn dir className) = false)
      (hwrite : x.disk.write (Seeder.pathIn dir className) text = .ok y.disk)
      (hwritten : y.summary.written =
        x.summary.written ++ [⟨Seeder.pathIn dir className, text, .seeder⟩])
  /-- The application's seeder is patched. -/
  | patch (text patched : String) (ht : t = .databaseSeeder)
      (hread : x.disk.read (databasePath s) = .ok text)
      (hpatch : Seeder.patch text = .patched patched)
      (hwrite : x.disk.write (databasePath s) patched = .ok y.disk)
      (hwritten : y.summary.written = x.summary.written)

/-- In a real run, what is saved is written. -/
theorem write_of_save (hreal : s.dryRun = false) {path : Path} {source : Except Error String}
    {d d' : Disk} {text : String} (h : save s d path source = .ok (d', text)) :
    source = .ok text ∧ d.write path text = .ok d' := by
  cases source with
  | error e => cases h
  | ok text' =>
    simp only [save, store, hreal, Bool.false_eq_true, if_false] at h
    split at h
    next hwrite =>
      cases h
      exact ⟨rfl, hwrite⟩
    next => cases h

/-- What making a seeder writes. -/
theorem SeederStep.change (hreal : s.dryRun = false) {dir : Path} {className content : String}
    {x y : State} {t : Task} (ht : seederOf? s t = some (dir, className))
    (h : SeederStep s dir className content x y) : Change s start x t y := by
  cases h with
  | skipped hentry => exact .nothing rfl rfl
  | written d text hnone hsave =>
    exact .seeder dir className text ht hnone (write_of_save hreal hsave).2 rfl
  | failed e hnone hsave => exact .nothing rfl rfl

/-- What a step writes. -/
theorem Step.change (hreal : s.dryRun = false) {x y : State} {t : Task}
    (h : Step s start x t y) : Change s start x t y := by
  cases h with
  | announce message => exact .nothing rfl rfl
  | migrationSkipped a schema h => exact .nothing rfl rfl
  | migrationWritten a schema m d text h hm hsave =>
    exact .migration a schema m text rfl h hm rfl (write_of_save hreal hsave).2 rfl
  | migrationFailed a schema m e h hm hsave => exact .nothing rfl rfl
  | seeder _ dir className content hseeder => exact hseeder.change hreal rfl
  | databaseMade _ habsent hseeder => exact hseeder.change hreal rfl
  | databaseUnreadable fault hpresent h => exact .nothing rfl rfl
  | databaseCalls text hpresent h hpatch => exact .nothing rfl rfl
  | databaseLeft text hpresent h hpatch => exact .nothing rfl rfl
  | databasePatched text patched d hpresent h hpatch hstore =>
    have hwrite : x.disk.write (databasePath s) patched = .ok d := by
      simpa [store, hreal] using hstore
    exact .patch text patched rfl h hpatch hwrite rfl
  | databaseUnwritable text patched fault hpresent h hpatch hstore => exact .nothing rfl rfl

/-- The directories of the disk stay through a step. -/
theorem Change.keeps {x y : State} {t : Task} (h : Change s start x t y) :
    x.disk.KeepsDirectories y.disk := by
  cases h with
  | nothing hdisk => rw [hdisk]; exact .refl _
  | migration a schema m text ht hnone hm hattempts hwrite =>
    exact Disk.keepsDirectories_write hwrite
  | seeder dir className text ht hnone hwrite => exact Disk.keepsDirectories_write hwrite
  | patch text patched ht hread hpatch hwrite => exact Disk.keepsDirectories_write hwrite

/-- The file of a migration with a plain stamp has the suffix of its action and table. -/
theorem suffixAt?_migrationPath (s : Settings) (d : Disk) {m : Moment} {a : Action} {table : String}
    (hyear : m.HasPlainYear) (hname : IsEntryName (Migration.fileName m a table)) :
    suffixAt? (d.placeOf (migrationPath s m a table)) = some (Migration.suffix a table) := by
  rw [migrationPath, Disk.placeOf_join _ _ hname, suffixAt?, List.getLast?_concat,
    Option.bind_some]
  exact Migration.stripStamp?_fileName hyear a table

/-- The file of a plainly named seeder is not that of a migration. -/
theorem suffixAt?_seederPath (d : Disk) (dir : Path) {className : String}
    (h : ∀ c ∈ className.toList, IsPlain c) :
    suffixAt? (d.placeOf (Seeder.pathIn dir className)) = none := by
  rw [Seeder.pathIn, Disk.placeOf_join _ _ (Seeder.isEntryName_fileName h), suffixAt?,
    List.getLast?_concat, Option.bind_some]
  exact Seeder.stripStamp?_seeder h

/-! ## Changes along a run -/

/-- What holds when the tasks begin and is preserved by every change of the plan holds of all that a
real run reaches; the stamp that a change takes has a plain year. -/
theorem Reaches.change_induction (hreal : s.dryRun = false) (hstamps : PlainStamps s start set d)
    {motive : State → Prop}
    (begins : ∀ d', makeDirectories s.dryRun d (directories s) = (d', .ok ()) →
      motive (state (begin s set d d')))
    (changes : ∀ t x y, t ∈ Task.plan s set →
      (∀ m, x.attempts < y.attempts → start.after? x.attempts = some m → m.HasPlainYear) →
      Change s start x t y → motive x → motive y)
    {done : List Task} {p : Progress} (h : Reaches s start set d done p) : motive (state p) := by
  refine Reaches.induction (motive := fun _ p => motive (state p)) begins
    (fun done t p p' hreach hplanned hperform ih => ?_) h
  have ht : t ∈ Task.plan s set := hplanned.subset (by simp)
  refine changes t _ _ ht (fun m hlt hm => ?_) ((perform_step hperform).change hreal) ih
  -- The stamp belongs to the run that has performed the task, too.
  exact hstamps _ _ _ m (hreach.snoc hplanned hperform) hlt hm

/-- The file of a planned migration has the name of an entry. -/
theorem isEntryName_of_plan (hnames : PlainNames set) {a : Action} {schema : Schema}
    (ht : .migration a schema ∈ Task.plan s set) (m : Moment) :
    IsEntryName (Migration.fileName m a schema.name) :=
  Migration.isEntryName_fileName m a (hnames a schema (mem_active_of_plan ht))

/-! ## Planned seeders -/

/-- The application's seeder is planned only in a run that makes seeders. -/
theorem seed_of_plan (h : .databaseSeeder ∈ Task.plan s set) : s.seed = true := by
  have hof : ∀ a, .databaseSeeder ∉ Task.ofAction s set a := by
    intro a ha
    obtain ⟨schema, -, htask⟩ := List.mem_flatMap.mp ha
    simp [Task.ofSchema] at htask
  by_contra hseed
  simp [Task.plan, hof, hseed] at h

/-- The default seeder of a registry is named like a model. -/
theorem defaultClass_registry (s : Settings) (set : SchemaSet) :
    (Task.registry s set).defaultClass = Seeder.modelName s.seederClass := by
  have hfold : ∀ (schemas : List Schema) (r : Seeder.Registry),
      (schemas.foldl (fun r schema => r.register (Seeder.className schema.name)) r).defaultClass =
        r.defaultClass := by
    intro schemas
    induction schemas with
    | nil => exact fun r => rfl
    | cons schema rest ih => exact fun r => ih _
  exact hfold _ _

/-- Every planned seeder goes into the directory of the table seeders or the one above it, and its
class has a plain name. -/
theorem seeder_of_plan {t : Task} {dir : Path} {className : String} (ht : t ∈ Task.plan s set)
    (h : seederOf? s t = some (dir, className)) :
    (dir = s.seedsDir ∨ dir = s.seedsRoot) ∧ ∀ c ∈ className.toList, IsPlain c := by
  have hof : ∀ a, t ∈ Task.ofAction s set a →
      (dir = s.seedsDir ∨ dir = s.seedsRoot) ∧ ∀ c ∈ className.toList, IsPlain c := by
    intro a ha
    obtain ⟨schema, -, htask⟩ := List.mem_flatMap.mp ha
    simp only [Task.ofSchema, List.mem_append, List.mem_cons, List.not_mem_nil, or_false] at htask
    rcases htask with (rfl | rfl) | htask
    · cases h
    · cases h
    · split at htask
      · rw [List.mem_singleton] at htask
        subst htask
        cases h
        exact ⟨.inl rfl, Seeder.className_plain schema.name⟩
      · cases htask
  simp only [Task.plan, List.mem_append, List.mem_flatMap] at ht
  rcases ht with (ht | ht) | ⟨a, -, ht⟩
  · exact hof .create ht
  · split at ht
    · simp only [Task.ofSeeders, List.mem_cons, List.not_mem_nil, or_false] at ht
      rcases ht with rfl | rfl | rfl | rfl | rfl | rfl
      · cases h
      · cases h
        rw [defaultClass_registry]
        exact ⟨.inl rfl, Seeder.modelName_plain s.seederClass⟩
      · cases h
      · cases h
        exact ⟨.inr rfl, Seeder.rootClass_plain⟩
      · cases h
      · cases h
        exact ⟨.inr rfl, Seeder.databaseClass_plain⟩
    · cases ht
  · exact hof a ht

/-- The class of every planned seeder has a plain name. -/
theorem plain_of_plan {t : Task} {dir : Path} {className : String} (ht : t ∈ Task.plan s set)
    (h : seederOf? s t = some (dir, className)) : ∀ c ∈ className.toList, IsPlain c :=
  (seeder_of_plan ht h).2

end SchemaForge.Run
