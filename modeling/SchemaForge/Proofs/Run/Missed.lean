import SchemaForge.Proofs.Run.Success
import SchemaForge.Proofs.Storage.Dots

/-!
# Migrations that a search misses

A walk passes over directories whose paths are too long, so a search can miss a migration that is
there (`Missed`, `not_seesMigration_iff`). A run that succeeds has a migration in reach for each of
its pairs all the same (`seesMigration_execute`): it makes another one where its search has missed
one.

On `deepDisk` there is a migration in a directory with a long name, and `dottedSettings` spell the
path of the directory of migrations with so many dots in front that a walk from there cannot open
the other one (`not_seesMigration_deep`). Everything that the run has to write it can write
(`deep_succeeds`).
-/

namespace SchemaForge.Run

variable {s : Settings} {start : Moment} {set : SchemaSet} {d : Disk} {dir : Path}

/-- A file that no walk from a directory can come to. -/
def Missed (d : Disk) (dir : Path) (place : Location) : Prop :=
  d.isFile place = true ∧ ¬d.InReach dir place

/-- A walk sees no migration of an action and table when it misses all that there are. -/
theorem not_seesMigration_iff {a : Action} {table : String} :
    ¬SeesMigration d dir a table ↔ ∀ place, d.isFile place = true → d.placeOf dir <+: place →
      suffixAt? place = some (Migration.suffix a table) → Missed d dir place := by
  constructor
  · intro h place hfile hbelow hsuffix
    exact ⟨hfile, fun hreach => h ⟨place, ⟨hfile, hbelow, hreach⟩, hsuffix⟩⟩
  · rintro h ⟨place, hsees, hsuffix⟩
    exact (h place hsees.isFile hsees.below hsuffix).2 hsees.inReach

/-- After a real run that has ended without failures, a search sees a migration of each pair. -/
theorem seesMigration_execute (hreal : s.dryRun = false) (hnames : PlainNames set)
    (hstamps : PlainStamps s start set d) {summary : Summary}
    (h : (execute s start set d).ending = .finished summary) (hsuccess : summary.isSuccess = true)
    {a : Action} {schema : Schema} (hpair : (a, schema) ∈ pairs set) :
    SeesMigration (execute s start set d).disk s.migrationsDir a schema.name := by
  obtain ⟨p, hreach, rfl⟩ := exists_reaches_of_finished h
  rw [hreach.disk_execute]
  exact hreach.present hreal hnames hstamps (isSuccess_iff_clean.mp hsuccess)
    (.migration a schema) (mem_plan_of_pair hpair) _ rfl

/-! ## A migration that is missed -/

/-- A long name. -/
def longName : String := String.ofList (List.replicate 200 'd')

/-- Where the migration is. -/
def deepPlace : Location :=
  ["database", "migrations", "civi", longName, "2019_01_01_000000_create_users.php"]

/-- A disk with a migration in a directory inside the usual one. -/
def deepDisk : Disk :=
  ⟨[(["database"], .directory), (["database", "migrations"], .directory),
    (["database", "migrations", "civi"], .directory),
    (["database", "migrations", "civi", longName], .directory),
    (deepPlace, .file ⟨#[]⟩)], [], by decide +kernel⟩

/-- The usual settings, with dots in front of the path of the directory of migrations. -/
def dottedSettings : Settings where
  schema := ⟨"schema.json"⟩
  databaseDir := .dotted 1940 ⟨"database"⟩

/-- One table. -/
def usersSet : SchemaSet where
  create := [⟨"users", [], false⟩]

/-- There is one pair. -/
theorem pairs_usersSet : pairs usersSet = [(.create, ⟨"users", [], false⟩)] := rfl

/-- When the run starts. -/
def deepStart : Moment := ⟨2024, 3, 7, 9, 5, 42, by decide⟩

/-- The dots are in front of the path of the directory of migrations. -/
theorem migrationsDir_dotted :
    dottedSettings.migrationsDir = .dotted 1940 ⟨"database/migrations/civi"⟩ := by
  have hmigrations : (Path.mk "database").join "migrations" = ⟨"database/migrations"⟩ := by decide
  have hcivi : (Path.mk "database/migrations").join "civi" = ⟨"database/migrations/civi"⟩ := by
    decide
  rw [Settings.migrationsDir, dottedSettings, Path.join_dotted (by decide) (by decide), hmigrations,
    Path.join_dotted (by decide) (by decide), hcivi]

/-- They lead nowhere. -/
theorem placeOf_migrationsDir_dotted :
    deepDisk.placeOf dottedSettings.migrationsDir = ["database", "migrations", "civi"] := by
  rw [migrationsDir_dotted, Disk.placeOf_dotted (by decide)]
  decide +kernel

/-- The only file is the migration. -/
theorem eq_deepPlace {place : Location} (h : deepDisk.isFile place = true) : place = deepPlace := by
  obtain ⟨content, hfile⟩ := Disk.isFile_iff.mp h
  have hmem := Disk.mem_entries_of_find? (by rintro rfl; cases hfile) hfile
  have hplace : place = deepPlace ∧ content = ⟨#[]⟩ := by simpa [deepDisk] using hmem
  exact hplace.1

/-- The migration lies below the directory of migrations. -/
theorem hasMigration_deep :
    HasMigration deepDisk dottedSettings.migrationsDir .create "users" := by
  refine ⟨deepPlace, by decide +kernel, ?_, by decide +kernel⟩
  rw [placeOf_migrationsDir_dotted]
  exact ⟨[longName, "2019_01_01_000000_create_users.php"], rfl⟩

/-- A walk from there cannot open its directory. -/
theorem not_inReach_deep : ¬deepDisk.InReach dottedSettings.migrationsDir deepPlace := by
  have htext : longName.toList = List.replicate 200 'd' := String.toList_ofList
  have hname : IsEntryName longName := by
    refine isEntryName_of_length ?_ ?_
    · rw [htext, List.mem_replicate]
      decide
    · rw [htext, List.length_replicate]
      decide
  have hplace : deepPlace = deepDisk.placeOf ⟨"database/migrations/civi"⟩ ++
      ([longName] ++ ["2019_01_01_000000_create_users.php"]) := by decide +kernel
  rw [hplace, migrationsDir_dotted, Disk.inReach_dotted (by decide) (by decide) (by decide)
    (by simpa using hname)]
  decide +kernel

/-- So a search for it finds nothing. -/
theorem not_seesMigration_deep :
    ¬SeesMigration deepDisk dottedSettings.migrationsDir .create "users" := by
  rw [not_seesMigration_iff]
  intro place hfile _ _
  obtain rfl := eq_deepPlace hfile
  exact ⟨hfile, not_inReach_deep⟩

/-- The run can write its own migration. -/
theorem deep_succeeds : ∃ summary,
    (execute dottedSettings deepStart usersSet deepDisk).ending = .finished summary ∧
      summary.isSuccess = true := by
  have hthere : deepDisk.hasDirectory dottedSettings.migrationsDir = true := by
    rw [Disk.hasDirectory, migrationsDir_dotted,
      Disk.locate_dotted (by decide) (by decide) (by decide)]
    decide +kernel
  have hmade : makeDirectories false deepDisk (directories dottedSettings) = (deepDisk, .ok ()) :=
    makeDirectories_of_present false (List.forall_mem_singleton.mpr hthere)
  have hseeds : databasePath dottedSettings =
      .dotted 1940 ⟨"database/seeds/DatabaseSeeder.php"⟩ := by
    rw [databasePath, Seeder.pathIn, Settings.seedsRoot, dottedSettings,
      Path.join_dotted (by decide) (by decide), Path.join_dotted (by decide) (by decide)]
    rfl
  have hdatabase : deepDisk.hasEntry (databasePath dottedSettings) = false := by
    rw [Disk.hasEntry, hseeds, Disk.locate_dotted (by decide) (by decide) (by decide)]
    decide +kernel
  have hpath : migrationPath dottedSettings deepStart .create "users" =
      .dotted 1940 ⟨"database/migrations/civi/2024_03_07_090542_create_users.php"⟩ := by
    rw [migrationPath, migrationsDir_dotted, Path.join_dotted (by decide) (by decide +kernel)]
    decide +kernel
  have hwrite : (deepDisk.write (migrationPath dottedSettings deepStart .create "users") "").isOk =
      true := by
    rw [hpath, Disk.write_dotted (by decide) (by decide) (by decide +kernel) (by decide)]
    decide +kernel
  have hcan : CanSucceed dottedSettings deepStart usersSet deepDisk deepDisk := by
    refine ⟨rfl, rfl, hmade, by decide, by decide +kernel, hdatabase, ?_⟩
    rintro (_ | _ | n) hn t ht - k hk f hf
    · -- The first task tells which table comes.
      cases ht
      cases hf
    · cases ht
      obtain rfl : k = 0 := Nat.le_zero.mp hk
      have hfile : ⟨migrationPath dottedSettings deepStart .create "users", "", .migration⟩ = f :=
        Option.some.inj hf
      subst hfile
      dsimp only
      exact hwrite
    · have hlength : (Task.plan dottedSettings usersSet).length = 2 := rfl
      omega
  obtain ⟨p, -, hending, hsuccess⟩ := hcan.execute
  exact ⟨p.summary, hending, hsuccess⟩

end SchemaForge.Run
