import Mathlib.Data.List.Nodup
import SchemaForge.Proofs.Run.Change
import SchemaForge.Proofs.Seeder.Patch

/-!
# No file is overwritten

Every file that was there before a run is there after it with the same bytes, except that the
application's seeder may have got the line that calls the root seeder, and every other file is one
that the run lists, once (`execute_frame`). The invariant is `Frame`: a step writes either where no
file is or the patched text of the application's seeder, and patches that text once only.
-/

namespace SchemaForge.Run

variable {s : Settings} {start : Moment} {set : SchemaSet} {d : Disk} {x y : State}

/-- A file of one disk is on another with the same bytes, or it is the application's seeder in a run
that makes seeders and has got one more line. -/
def FileKept (s : Settings) (d d' : Disk) (place : Location) (content : ByteArray) : Prop :=
  d'.find? place = some (.file content) ∨
    s.seed = true ∧ place = d.placeOf (databasePath s) ∧ ∃ text patched,
      content = text.toUTF8 ∧ Seeder.patch text = .patched patched ∧
        Seeder.IsPatched text patched ∧ d'.find? place = some (.file patched.toUTF8)

/-- What a run has done so far to the files of a disk. -/
structure Frame (s : Settings) (d : Disk) (x : State) : Prop where
  /-- Relative paths start at the same directory. -/
  workDir : x.disk.workDir = d.workDir
  /-- Every file is kept. -/
  kept : ∀ place content, d.find? place = some (.file content) →
    FileKept s d x.disk place content
  /-- Every new file is listed. -/
  listed : ∀ place, x.disk.isFile place = true →
    d.isFile place = true ∨ ∃ f ∈ x.summary.written, d.placeOf f.path = place
  /-- Every listed file is there and is new. -/
  fresh : ∀ f ∈ x.summary.written,
    x.disk.isFile (d.placeOf f.path) = true ∧ d.isFile (d.placeOf f.path) = false
  /-- No file is listed twice. -/
  distinct : (x.summary.written.map fun f => d.placeOf f.path).Nodup

/-- A kept file is a file. -/
theorem FileKept.isFile {d d' : Disk} {place : Location} {content : ByteArray}
    (h : FileKept s d d' place content) : d'.isFile place = true := by
  rcases h with h | ⟨-, -, text, patched, -, -, -, h⟩
  · exact Disk.isFile_iff.mpr ⟨content, h⟩
  · exact Disk.isFile_iff.mpr ⟨patched.toUTF8, h⟩

/-- Every old file is still a file. -/
theorem Frame.isFile (h : Frame s d x) {place : Location} (hplace : d.isFile place = true) :
    x.disk.isFile place = true := by
  obtain ⟨content, hfind⟩ := Disk.isFile_iff.mp hplace
  exact (h.kept place content hfind).isFile

/-- Paths lead where they led before. -/
theorem Frame.placeOf (h : Frame s d x) (p : Path) : x.disk.placeOf p = d.placeOf p :=
  Disk.placeOf_congr h.workDir p

/-- Making directories leaves every file and lists none. -/
theorem Frame.begins {d' : Disk} {attempts : ℕ} {summary : Summary}
    (h : d.AddsDirectories d') (hnone : summary.written = []) :
    Frame s d ⟨d', attempts, summary⟩ where
  workDir := h.workDir
  kept place content hfind := .inl ((h.find?_file place content).mpr hfind)
  listed place hplace := .inl (by rwa [← h.isFile])
  fresh f hf := by simp [hnone] at hf
  distinct := by simp [hnone]

/-- A file that is written where none is, and listed, keeps the frame. -/
theorem Frame.write (h : Frame s d x) {p : Path} {text : String} {kind : FileKind}
    (hwrite : x.disk.write p text = .ok y.disk) (hfree : x.disk.isFile (x.disk.placeOf p) = false)
    (hwritten : y.summary.written = x.summary.written ++ [⟨p, text, kind⟩]) : Frame s d y := by
  rw [h.placeOf] at hfree
  have hfind := Disk.find?_write hwrite
  have hfile := Disk.isFile_write hwrite
  rw [h.placeOf] at hfind hfile
  -- An old file at the location would still be one.
  have hnew : d.isFile (d.placeOf p) = false := by
    by_contra hold
    rw [h.isFile (by simpa using hold)] at hfree
    cases hfree
  refine ⟨(Disk.workDir_write hwrite).trans h.workDir, fun place content hcontent => ?_,
    fun place hplace => ?_, fun g hg => ?_, ?_⟩
  · have hkept := h.kept place content hcontent
    have hne : place ≠ d.placeOf p := by
      rintro rfl
      rw [hkept.isFile] at hfree
      cases hfree
    rwa [FileKept, hfind, if_neg hne]
  · rcases (hfile place).mp hplace with rfl | hplace
    · exact .inr ⟨⟨p, text, kind⟩, by simp [hwritten], rfl⟩
    · refine (h.listed place hplace).imp_right fun ⟨g, hg, hplaceOf⟩ => ⟨g, ?_, hplaceOf⟩
      simp [hwritten, hg]
  · rw [hwritten, List.mem_append, List.mem_singleton] at hg
    rcases hg with hg | rfl
    · exact ⟨(hfile _).mpr (.inr (h.fresh g hg).1), (h.fresh g hg).2⟩
    · exact ⟨(hfile _).mpr (.inl rfl), hnew⟩
  · rw [hwritten, List.map_append, List.map_singleton, List.nodup_append]
    refine ⟨h.distinct, by simp, fun place hplace q hq => ?_⟩
    obtain ⟨g, hg, rfl⟩ := List.mem_map.mp hplace
    rw [List.mem_singleton.mp hq]
    intro heq
    rw [← heq, (h.fresh g hg).1] at hfree
    cases hfree

/-- The application's seeder that is patched keeps the frame. -/
theorem Frame.patch (hseed : s.seed = true) (h : Frame s d x) {text patched : String}
    (hread : x.disk.read (databasePath s) = .ok text)
    (hpatch : Seeder.patch text = .patched patched)
    (hwrite : x.disk.write (databasePath s) patched = .ok y.disk)
    (hwritten : y.summary.written = x.summary.written) : Frame s d y := by
  have htext := Disk.find?_of_read hread
  have hfind := Disk.find?_write hwrite
  have hfile := Disk.isFile_write hwrite
  rw [h.placeOf] at htext hfind hfile
  have hplaceFile : x.disk.isFile (d.placeOf (databasePath s)) = true :=
    Disk.isFile_iff.mpr ⟨_, htext⟩
  refine ⟨(Disk.workDir_write hwrite).trans h.workDir, fun place content hcontent => ?_,
    fun place hplace => ?_, fun g hg => ?_, ?_⟩
  · have hkept := h.kept place content hcontent
    by_cases hplace : place = d.placeOf (databasePath s)
    · subst hplace
      rw [FileKept, htext] at hkept
      rcases hkept with hsame | ⟨-, -, old, once, -, honce, -, hsame⟩
      · -- The bytes are those that were read.
        obtain rfl : text.toUTF8 = content := by simpa using hsame
        exact .inr ⟨hseed, rfl, text, patched, rfl, hpatch, Seeder.patch_inserts hpatch,
          by rw [hfind, if_pos rfl]⟩
      · -- The text that was read is patched already, so it would have been left alone.
        obtain rfl : text = once := by simpa [String.toByteArray_inj] using hsame
        rw [Seeder.patch_patched honce] at hpatch
        cases hpatch
    · rwa [FileKept, hfind, if_neg hplace]
  · rw [hwritten]
    rcases (hfile place).mp hplace with rfl | hplace
    · exact h.listed _ hplaceFile
    · exact h.listed place hplace
  · rw [hwritten] at hg
    exact ⟨(hfile _).mpr (.inr (h.fresh g hg).1), (h.fresh g hg).2⟩
  · rw [hwritten]
    exact h.distinct

/-- A step keeps the frame. -/
theorem Frame.change (hnames : PlainNames set) {t : Task} (ht : t ∈ Task.plan s set)
    (hyear : ∀ m, x.attempts < y.attempts → start.after? x.attempts = some m → m.HasPlainYear)
    (hchange : Change s start x t y) (h : Frame s d x) : Frame s d y := by
  cases hchange with
  | nothing hdisk hwritten =>
    obtain ⟨hworkDir, hkept, hlisted, hfresh, hdistinct⟩ := h
    rw [← hdisk] at hworkDir hkept hlisted hfresh
    rw [← hwritten] at hlisted hfresh hdistinct
    exact ⟨hworkDir, hkept, hlisted, hfresh, hdistinct⟩
  | migration a schema m text hmigration hnone hm hattempts hwrite hwritten =>
    subst hmigration
    have hname := isEntryName_of_plan hnames ht m
    refine h.write hwrite ?_ hwritten
    -- A file at the path would have been found: its stamp is plain.
    by_contra hfile
    have hbase : x.disk.placeOf s.migrationsDir <+:
        x.disk.placeOf (migrationPath s m a schema.name) := by
      rw [migrationPath, Disk.placeOf_join _ _ hname]
      exact List.prefix_append _ _
    have hsuffix := suffixAt?_migrationPath s x.disk (hyear m (by omega) hm) hname
    exact not_seesMigration hname hnone hwrite
      ⟨_, ⟨by simpa using hfile, hbase, Disk.inReach_of_write hname hwrite⟩, hsuffix⟩
  | seeder dir className text hseeder hnone hwrite hwritten =>
    refine h.write hwrite ?_ hwritten
    -- Whatever can be written over exists at the path.
    simp [Disk.isFile, Disk.find?_of_write_absent hnone hwrite]
  | patch text patched hdatabase hread hpatch hwrite hwritten =>
    subst hdatabase
    exact h.patch (seed_of_plan ht) hread hpatch hwrite hwritten

/-- Whatever a run reaches, it keeps the frame. -/
theorem Frame.reaches (hreal : s.dryRun = false) (hnames : PlainNames set)
    (hstamps : PlainStamps s start set d) {done : List Task} {p : Progress}
    (hreach : Reaches s start set d done p) : Frame s d (state p) := by
  refine hreach.change_induction hreal hstamps (fun d' hmade => ?_)
    fun t x y ht hyear hchange ih => ih.change hnames ht hyear hchange
  have hadds := addsDirectories_makeDirectories s.dryRun d (directories s)
  rw [hmade] at hadds
  exact .begins hadds rfl

/-- A real run overwrites no file: every file is there afterwards with the same bytes, or it is the
application's seeder in a run that makes seeders and has got the line that calls the root seeder. A
run that is refused makes no file; one that ends lists every new file once, under different paths.
No other end is possible for tables whose names have no slash and stamps of plain years. -/
theorem execute_frame (hreal : s.dryRun = false) (hnames : PlainNames set)
    (hstamps : PlainStamps s start set d) :
    (∀ place content, d.find? place = some (.file content) →
      FileKept s d (execute s start set d).disk place content) ∧
    match (execute s start set d).ending with
    | .refused _ => ∀ place, (execute s start set d).disk.isFile place = true →
        d.isFile place = true
    | .finished summary =>
        (∀ place, (execute s start set d).disk.isFile place = true → d.isFile place = false →
          (summary.written.map fun f => d.placeOf f.path).count place = 1) ∧
        (summary.written.map fun f => f.path).Nodup
    | .outOfCalendar => False := by
  rcases execute_cases s start set d with ⟨e, hdisk, hending⟩ | ⟨p, hreach, hdisk, hending⟩ |
    ⟨done, p, hreach, -, -, hnone⟩
  · have hadds := addsDirectories_makeDirectories s.dryRun d (directories s)
    rw [hdisk, hending]
    refine ⟨fun place content hfind => .inl ((hadds.find?_file place content).mpr hfind), ?_⟩
    exact fun place hplace => by rwa [← hadds.isFile]
  · have hframe := Frame.reaches hreal hnames hstamps hreach
    rw [hdisk, hending]
    refine ⟨hframe.kept, fun place hplace hnew => ?_, ?_⟩
    · rcases hframe.listed place hplace with hold | ⟨f, hf, rfl⟩
      · rw [hnew] at hold
        cases hold
      · exact List.count_eq_one_of_mem hframe.distinct (List.mem_map.mpr ⟨f, hf, rfl⟩)
    · have hplaces : (p.summary.written.map fun f => f.path).map d.placeOf =
          p.summary.written.map fun f => d.placeOf f.path := by
        rw [List.map_map]
        rfl
      exact List.Nodup.of_map d.placeOf (hplaces ▸ hframe.distinct)
  · exact absurd hnone (after?_ne_none hstamps hreach)

/-- A run that makes seeders keeps the text of an application's seeder that calls nothing yet, but
for the call, and lists the four files that it makes. -/
theorem execute_frame_seeders :
    let s : Settings := {
      schema := ⟨"schema.json"⟩
      templatesDir := some ⟨"stubs"⟩
      seed := true }
    let start : Moment := ⟨2026, 2, 28, 23, 59, 59, by decide⟩
    let set : SchemaSet := { create := [⟨"users", [], false⟩] }
    let place : Location := ["database", "seeds", "DatabaseSeeder.php"]
    let text := "class DatabaseSeeder \x7b\n    public function run()\n    \x7b\n    \x7d\n\x7d\n"
    let patched := "class DatabaseSeeder \x7b\n    public function run()\n    \x7b\n        " ++
      "$this->call(CiviDatabaseSeeder::class);\n    \x7d\n\x7d\n"
    let d : Disk := ⟨[(["stubs"], .directory),
      (["stubs", "migration.stub"], .file "\x7b\x7bclass\x7d\x7d".toUTF8),
      (["stubs", "schema-create.stub"], .file "".toUTF8),
      (["stubs", "seeder.stub"], .file "\x7b\x7bcontent\x7d\x7d".toUTF8),
      (["database"], .directory), (["database", "seeds"], .directory),
      (place, .file text.toUTF8)], [], by decide⟩
    let d' := (execute s start set d).disk
    FileKept s d d' place text.toUTF8 ∧ d'.find? place = some (.file patched.toUTF8) ∧
      ∃ summary, (execute s start set d).ending = .finished summary ∧
        summary.written.map (fun f => f.path.text) =
          ["database/migrations/civi/2026_02_28_235959_create_users.php",
            "database/seeds/civi/UserSeeder.php", "database/seeds/civi/CiviDefaultSeeder.php",
            "database/seeds/CiviDatabaseSeeder.php"] ∧
        (∀ place, d'.isFile place = true → d.isFile place = false →
          (summary.written.map fun f => d.placeOf f.path).count place = 1) ∧
        (summary.written.map fun f => f.path).Nodup := by
  intro s start set place text patched d d'
  have hnames : PlainNames set := plainNames_of_pairs (by decide)
  have hstamps : PlainStamps s start set d := plainStamps_of_pairs (by decide)
  obtain ⟨hfinished, hpatched⟩ : ((execute s start set d).ending.finishedWith fun summary =>
      decide (summary.written.map (fun f => f.path.text) =
        ["database/migrations/civi/2026_02_28_235959_create_users.php",
          "database/seeds/civi/UserSeeder.php", "database/seeds/civi/CiviDefaultSeeder.php",
          "database/seeds/CiviDatabaseSeeder.php"])) = true ∧
      d'.find? place = some (.file patched.toUTF8) := by decide +kernel
  obtain ⟨summary, hending, hpaths⟩ := Ending.exists_of_finishedWith hfinished
  obtain ⟨hkept, hlisted⟩ := @execute_frame s start set d rfl hnames hstamps
  rw [hending] at hlisted
  exact ⟨hkept _ _ rfl, hpatched, summary, hending, of_decide_eq_true hpaths, hlisted⟩

end SchemaForge.Run
