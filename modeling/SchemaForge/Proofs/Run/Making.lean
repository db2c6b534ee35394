import SchemaForge.Proofs.Migration.Compile
import SchemaForge.Proofs.Run.Repeat
import SchemaForge.Proofs.Run.Templates

/-!
# What a task makes

A task that does not fail leaves alone what it finds, or makes the one file that it is for
(`Step.succeeds`). Whether it finds something is read off the disk (`finds`), and so is the text of
the file (`textOf`). What a task makes has a key (`keyOf?`), the suffix of a migration and the
location of a seeder, by which a later task finds it: a key that is present stays so, and a real
step adds the key of its own task at most (`Change.present_cases`).
-/

namespace SchemaForge.Run

variable {s : Settings} {start : Moment} {set : SchemaSet} {d d' : Disk} {x y : State} {t : Task}

/-- What the file of a task is recognized by. -/
inductive Key where
  /-- A migration, by what follows its stamp. -/
  | migration (suffix : String)
  /-- A seeder, by its location. -/
  | seeder (place : Location)
deriving DecidableEq

/-- The key of what a task makes. -/
def keyOf? (s : Settings) (d : Disk) : Task → Option Key
  | .announce _ => none
  | .migration a schema => some (.migration (Migration.suffix a schema.name))
  | .seeder dir className _ => some (.seeder (d.placeOf (Seeder.pathIn dir className)))
  | .databaseSeeder => some (.seeder (d.placeOf (databasePath s)))

/-- What a task would make is there, or it makes nothing. -/
def finds (s : Settings) (d : Disk) : Task → Bool
  | .announce _ => true
  | .migration a schema => !(findMigrations d s.migrationsDir a schema.name).isEmpty
  | .seeder dir className _ => d.hasEntry (Seeder.pathIn dir className)
  | .databaseSeeder => d.hasEntry (databasePath s)

/-- The text of the file that a task makes. -/
def textOf (s : Settings) (d : Disk) : Task → Except Error String
  | .announce message => .ok message
  | .migration a schema => Migration.classText (s.templates.source d) schema a
  | .seeder _ className content => Seeder.classText (s.templates.source d) className content
  | .databaseSeeder =>
    Seeder.classText (s.templates.source d) Seeder.databaseClass (Seeder.call Seeder.rootClass)

/-- The file that a task makes of a text after some attempts at migrations. -/
def fileOf? (s : Settings) (start : Moment) (attempts : Nat) (text : String) :
    Task → Option GeneratedFile
  | .announce _ => none
  | .migration a schema =>
    (start.after? attempts).map fun m => ⟨migrationPath s m a schema.name, text, .migration⟩
  | .seeder dir className _ => some ⟨Seeder.pathIn dir className, text, .seeder⟩
  | .databaseSeeder => some ⟨databasePath s, text, .seeder⟩

/-- A text that is read is one that calls the root seeder already. -/
def callsRoot : Except StorageFault String → Bool
  | .ok text => Seeder.patch text = .alreadyCalls
  | .error _ => false

/-- How many files a task leaves alone when it finds something. -/
def leftBy (s : Settings) (d : Disk) : Task → Nat
  | .announce _ => 0
  | .migration _ _ => 1
  | .seeder _ _ _ => 1
  | .databaseSeeder => (callsRoot (d.read (databasePath s))).toNat

/-- There is something with a key on a disk; a migration counts where a walk sees it. -/
def Present (s : Settings) (d : Disk) : Key → Prop
  | .migration suffix => ∃ place, d.Sees s.migrationsDir place ∧ suffixAt? place = some suffix
  | .seeder place => (d.find? place).isSome

/-! ## Tasks that do not fail -/

/-- What a task does to the counters and the list of a run when it does not fail. -/
inductive Succeeds (s : Settings) (start : Moment) (x : State) (t : Task) (y : State) : Prop where
  /-- It leaves alone what it finds. -/
  | leaves (hfinds : finds s x.disk t = true) (hattempts : y.attempts = x.attempts)
      (hwritten : y.summary.written = x.summary.written)
      (hskipped : y.summary.skipped = x.summary.skipped + leftBy s x.disk t)
  /-- It makes its file. -/
  | makes (text : String) (f : GeneratedFile) (hfinds : finds s x.disk t = false)
      (htext : textOf s x.disk t = .ok text) (hfile : fileOf? s start x.attempts text t = some f)
      (hattempts : y.attempts = x.attempts + (migrationOf? t).toList.length)
      (hwritten : y.summary.written = x.summary.written ++ [f])
      (hskipped : y.summary.skipped = x.summary.skipped)

/-- A migration is found when the search for it gives something. -/
theorem finds_migration {a : Action} {schema : Schema} :
    finds s d (.migration a schema) = true ↔
      findMigrations d s.migrationsDir a schema.name ≠ [] := by
  simp [finds]

/-- The application's seeder is left alone when it calls the root seeder already. -/
theorem leftBy_database {text : String} (h : d.read (databasePath s) = .ok text) :
    leftBy s d .databaseSeeder = (decide (Seeder.patch text = .alreadyCalls)).toNat := by
  rw [leftBy, h]
  rfl

/-- A text that is saved is the one that was to be saved. -/
theorem text_of_save {path : Path} {source : Except Error String} {text : String}
    (h : save s d path source = .ok (d', text)) : source = .ok text := by
  cases source with
  | error e => cases h
  | ok text' =>
    rw [save] at h
    split at h
    next =>
      cases h
      rfl
    next => cases h

/-- A seeder that is made, or left alone, without a failure. -/
theorem SeederStep.succeeds {dir : Path} {className content : String}
    (h : SeederStep s dir className content x y) (hy : Clean y) :
    Succeeds s start x (.seeder dir className content) y := by
  cases h with
  | skipped hentry => exact .leaves hentry rfl rfl rfl
  | written d text hnone hsave => exact .makes text _ hnone (text_of_save hsave) rfl rfl rfl rfl
  | failed e hnone hsave => exact absurd hy not_clean_seederFailed

/-- A step without a failure leaves alone what it finds or makes its file. -/
theorem Step.succeeds (h : Step s start x t y) (hy : Clean y) : Succeeds s start x t y := by
  cases h with
  | announce message => exact .leaves rfl rfl rfl rfl
  | migrationSkipped a schema h => exact .leaves (finds_migration.mpr h) rfl rfl rfl
  | migrationWritten a schema m d text h hm hsave =>
    refine .makes text _ (by simp [finds, h]) (text_of_save hsave) ?_ rfl rfl rfl
    simp [fileOf?, hm]
  | migrationFailed a schema m e h hm hsave => exact absurd hy not_clean_failed
  | seeder _ dir className content h => exact h.succeeds hy
  | databaseMade _ habsent h =>
    cases h with
    | skipped hentry =>
      rw [databasePath, hentry] at habsent
      cases habsent
    | written d text hnone hsave =>
      exact .makes text ⟨databasePath s, text, .seeder⟩ hnone (text_of_save hsave) rfl rfl rfl rfl
    | failed e hnone hsave => exact absurd hy not_clean_seederFailed
  | databaseUnreadable fault hpresent h => exact absurd hy not_clean_seederFailed
  | databaseCalls text hpresent h hpatch =>
    exact .leaves hpresent rfl rfl (by simp [leftBy_database h, hpatch, skipped])
  | databaseLeft text hpresent h hpatch =>
    exact .leaves hpresent rfl rfl (by simp [leftBy_database h, hpatch])
  | databasePatched text patched d hpresent h hpatch hstore =>
    exact .leaves hpresent rfl rfl (by simp [leftBy_database h, hpatch])
  | databaseUnwritable text patched fault hpresent h hpatch hstore =>
    exact absurd hy not_clean_seederFailed

/-- A task that finds nothing and does not fail lists a file. -/
theorem Succeeds.written_ne (h : Succeeds s start x t y) (hnone : finds s x.disk t = false) :
    y.summary.written ≠ x.summary.written := by
  cases h with
  | leaves hfinds => exact absurd (hnone.symm.trans hfinds) Bool.false_ne_true
  | makes text f hfinds htext hfile hattempts hwritten => simp [hwritten]

/-- A step that finds the application's seeder and does not fail has read it. -/
theorem Step.read_database (h : Step s start x .databaseSeeder y) (hy : Clean y)
    (hfinds : finds s x.disk .databaseSeeder = true) :
    ∃ text, x.disk.read (databasePath s) = .ok text := by
  cases h with
  | databaseMade _ habsent h => exact absurd (habsent.symm.trans hfinds) Bool.false_ne_true
  | databaseUnreadable fault hpresent h => exact absurd hy not_clean_seederFailed
  | databaseCalls text hpresent h hpatch => exact ⟨text, h⟩
  | databaseLeft text hpresent h hpatch => exact ⟨text, h⟩
  | databasePatched text patched d hpresent h hpatch hstore => exact ⟨text, h⟩
  | databaseUnwritable text patched fault hpresent h hpatch hstore =>
    exact absurd hy not_clean_seederFailed

/-! ## Seeders -/

/-- A seeder and a migration have different locations, whatever the stamp. -/
theorem placeOf_seeder_ne_migration (d : Disk) (dir : Path) {className : String}
    (h : ∀ c ∈ className.toList, Text.IsPlain c) {m : Moment} {a : Action} {table : String}
    (hname : IsEntryName (Migration.fileName m a table)) :
    d.placeOf (Seeder.pathIn dir className) ≠ d.placeOf (migrationPath s m a table) := by
  rw [Seeder.pathIn, Disk.placeOf_join _ _ (Seeder.isEntryName_fileName h), migrationPath,
    Disk.placeOf_join _ _ hname]
  intro hplace
  have hlast := List.singleton_inj.mp (List.append_inj' hplace rfl).2
  exact Seeder.fileName_ne_migration h m a table hlast

/-- The key of a seeder is its location. -/
theorem keyOf?_seeder {dir : Path} {className : String}
    (h : seederOf? s t = some (dir, className)) :
    keyOf? s d t = some (.seeder (d.placeOf (Seeder.pathIn dir className))) := by
  cases t <;> cases h <;> rfl

/-- A seeder is found when something exists at its path. -/
theorem finds_seeder {dir : Path} {className : String}
    (h : seederOf? s t = some (dir, className)) :
    finds s d t = d.hasEntry (Seeder.pathIn dir className) := by
  cases t <;> cases h <;> rfl

/-- The key of a location is that of a seeder. -/
theorem exists_seederOf? {place : Location} (h : keyOf? s d t = some (.seeder place)) :
    ∃ dir className, seederOf? s t = some (dir, className) ∧
      place = d.placeOf (Seeder.pathIn dir className) := by
  cases t with
  | announce message => cases h
  | migration a schema => cases h
  | seeder dir className content => cases h; exact ⟨dir, className, rfl, rfl⟩
  | databaseSeeder => cases h; exact ⟨s.seedsRoot, Seeder.databaseClass, rfl, rfl⟩

/-- Keys are the same where paths lead to the same locations. -/
theorem keyOf?_congr (h : ∀ p, d'.placeOf p = d.placeOf p) (t : Task) :
    keyOf? s d' t = keyOf? s d t := by
  cases t with
  | announce message => rfl
  | migration a schema => rfl
  | seeder dir className content => simp only [keyOf?, h]
  | databaseSeeder => simp only [keyOf?, h]

/-! ## What is there stays there -/

/-- What a task finds it finds when the disk has grown. -/
theorem finds_of_grows (h : d.Grows d') (hfinds : finds s d t = true) : finds s d' t = true := by
  cases t with
  | announce message => rfl
  | migration a schema =>
    rw [finds_migration] at hfinds ⊢
    exact findMigrations_of_grows h hfinds
  | seeder dir className content => exact h.hasEntry hfinds
  | databaseSeeder => exact h.hasEntry hfinds

/-- What a task does not find when the disk has grown it did not find before. -/
theorem not_finds_of_grows (h : d.Grows d') (hnone : finds s d' t = false) :
    finds s d t = false := by
  by_contra hfound
  rw [finds_of_grows h (by simpa using hfound)] at hnone
  cases hnone

/-- What is present is present when the disk has grown. -/
theorem present_of_grows (h : d.Grows d') {k : Key} (hk : Present s d k) : Present s d' k := by
  cases k with
  | migration suffix =>
    obtain ⟨place, hsees, hsuffix⟩ := hk
    exact ⟨place, h.sees hsees, hsuffix⟩
  | seeder place => exact h.isSome_find? hk

/-- What a task finds is present. -/
theorem present_of_finds (hfinds : finds s d t = true) {k : Key}
    (hkey : keyOf? s d t = some k) : Present s d k := by
  cases k with
  | migration suffix =>
    cases t with
    | migration a schema =>
      cases hkey
      exact (findMigrations_ne_nil.mp (finds_migration.mp hfinds)).2
    | _ => cases hkey
  | seeder place =>
    obtain ⟨dir, className, hseeder, rfl⟩ := exists_seederOf? hkey
    rw [finds_seeder hseeder] at hfinds
    exact Disk.isSome_find?_of_hasEntry hfinds

/-! ## What a step makes -/

/-- A step that lists a file makes what was not present. -/
theorem Change.not_present (hnames : PlainNames set) (ht : t ∈ Task.plan s set)
    (h : Change s start x t y) (hmore : y.summary.written ≠ x.summary.written) {k : Key}
    (hkey : keyOf? s x.disk t = some k) : ¬Present s x.disk k := by
  cases h with
  | nothing hdisk hwritten => exact absurd hwritten hmore
  | migration a schema m text hmigration hnone hm hattempts hwrite hwritten =>
    subst hmigration
    cases hkey
    exact not_seesMigration (isEntryName_of_plan hnames ht m) hnone hwrite
  | seeder dir className text hseeder hnone hwrite hwritten =>
    rw [keyOf?_seeder hseeder] at hkey
    cases hkey
    simp [Present, Disk.find?_of_write_absent hnone hwrite]
  | patch text patched hdatabase hread hpatch hwrite hwritten => exact absurd hwritten hmore

/-- A file at a location is recognized by a key. -/
def Key.Fits (place : Location) : Key → Prop
  | .migration suffix => suffixAt? place = some suffix
  | .seeder other => other = place

/-- What is present after a file is written was present before, or the file is recognized by its
key. -/
theorem present_write {p : Path} {text : String} (hwrite : d.write p text = .ok d') {k : Key}
    (hk : Present s d' k) : Present s d k ∨ k.Fits (d.placeOf p) := by
  cases k with
  | migration suffix =>
    obtain ⟨place, hsees, hsuffix⟩ := hk
    rcases (Disk.sees_write hwrite).mp hsees with hsees | ⟨rfl, -, -⟩
    · exact .inl ⟨place, hsees, hsuffix⟩
    · exact .inr hsuffix
  | seeder place =>
    rw [Present, Disk.find?_write hwrite] at hk
    split at hk
    next hplace => exact .inr hplace
    next => exact .inl hk

/-- What is present after a step was present before, or the step has made it for its task. -/
theorem Change.present_cases (hnames : PlainNames set) (ht : t ∈ Task.plan s set)
    (h : Change s start x t y) {u : Task} (hu : u ∈ Task.plan s set) {k : Key}
    (hkey : keyOf? s x.disk u = some k) (hk : Present s y.disk k) :
    Present s x.disk k ∨ finds s x.disk t = false ∧ keyOf? s x.disk t = some k := by
  cases h with
  | nothing hdisk hwritten => exact .inl (hdisk ▸ hk)
  | migration a schema m text hmigration hnone hm hattempts hwrite hwritten =>
    subst hmigration
    have hname := isEntryName_of_plan hnames ht m
    refine (present_write hwrite hk).imp_right fun hfits => ⟨by simp [finds, hnone], ?_⟩
    cases k with
    | migration suffix =>
      rw [Key.Fits, migrationPath, Disk.placeOf_join _ _ hname, suffixAt?,
        List.getLast?_concat, Option.bind_some] at hfits
      rw [keyOf?, Migration.eq_suffix_of_stripStamp? hfits]
    | seeder place =>
      -- No seeder has the name of a migration.
      obtain ⟨dir, className, hseeder, rfl⟩ := exists_seederOf? hkey
      exact absurd hfits (placeOf_seeder_ne_migration _ _ (plain_of_plan hu hseeder) hname)
  | seeder dir className text hseeder hnone hwrite hwritten =>
    refine (present_write hwrite hk).imp_right fun hfits =>
      ⟨by rw [finds_seeder hseeder, hnone], ?_⟩
    cases k with
    | migration suffix =>
      -- A seeder has no stamp.
      rw [Key.Fits, suffixAt?_seederPath _ _ (plain_of_plan ht hseeder)] at hfits
      cases hfits
    | seeder place => rw [keyOf?_seeder hseeder, ← hfits]
  | patch text patched hdatabase hread hpatch hwrite hwritten =>
    -- The file that is patched was there before.
    have hold := Disk.find?_of_read hread
    refine .inl ((present_write hwrite hk).elim id fun hfits => ?_)
    cases k with
    | migration suffix =>
      rw [Key.Fits, databasePath, suffixAt?_seederPath _ _ Seeder.databaseClass_plain] at hfits
      cases hfits
    | seeder place =>
      rw [Present, hfits, hold]
      rfl

/-- What a task is for is present after its step, unless the step fails. -/
theorem Step.present (hreal : s.dryRun = false) (hnames : PlainNames set)
    (ht : t ∈ Task.plan s set)
    (hyear : ∀ m, x.attempts < y.attempts → start.after? x.attempts = some m → m.HasPlainYear)
    (h : Step s start x t y) (hy : Clean y) {k : Key} (hkey : keyOf? s x.disk t = some k) :
    Present s y.disk k := by
  have hchange := h.change hreal
  cases h.succeeds hy with
  | leaves hfinds hattempts hwritten hskipped =>
    exact present_of_grows hchange.grows (present_of_finds hfinds hkey)
  | makes text f hfinds htext hfile hattempts hmore hskipped =>
    cases hchange with
    | nothing hdisk hwritten => simp [hwritten] at hmore
    | migration a schema m text hmigration hnone hm hattempts hwrite hwritten =>
      subst hmigration
      cases hkey
      -- The search takes the stamp for one as its year is plain.
      have hfound := findMigrations_of_write (hyear m (by omega) hm)
        (isEntryName_of_plan hnames ht m) hwrite
      exact (findMigrations_ne_nil.mp hfound).2
    | seeder dir className text hseeder hnone hwrite hwritten =>
      rw [keyOf?_seeder hseeder] at hkey
      cases hkey
      rw [Present, Disk.find?_write hwrite, if_pos rfl]
      rfl
    | patch text patched hdatabase hread hpatch hwrite hwritten => simp [hwritten] at hmore

/-! ## Texts -/

/-- A seeder depends on the template of seeders only. -/
theorem classText_seeder_of_load {source source' : Template.Source}
    {className content text : String}
    (hload : ∀ template, source.load Template.seederName = .ok template →
      source'.load Template.seederName = .ok template)
    (h : Seeder.classText source className content = .ok text) :
    Seeder.classText source' className content = .ok text := by
  obtain ⟨template, htemplate, hrest⟩ := Seeder.classText_eq_ok_iff.mp h
  exact Seeder.classText_eq_ok_iff.mpr ⟨template, hload template htemplate, hrest⟩

/-- The text of a task depends on the templates only. -/
theorem textOf_of_load (hload : ∀ name ∈ Template.names, ∀ template,
      (s.templates.source d').load name = .ok template →
        (s.templates.source d).load name = .ok template) {text : String}
    (htext : textOf s d' t = .ok text) : textOf s d t = .ok text := by
  have hseeder := hload Template.seederName (by decide)
  cases t with
  | announce message => exact htext
  | migration a schema => exact Migration.classText_of_load hload htext
  | seeder dir className content => exact classText_seeder_of_load hseeder htext
  | databaseSeeder => exact classText_seeder_of_load hseeder htext

/-- A text that is made after code is written is what it was before. -/
theorem WritesCode.textOf (h : WritesCode d d') {text : String}
    (htext : Run.textOf s d' t = .ok text) : Run.textOf s d t = .ok text :=
  textOf_of_load (fun _ hname _ hload => h.load s.templates hname hload) htext

/-! ## Steps of dry runs -/

/-- In a dry run, saving a text changes nothing. -/
theorem save_dry (hdry : s.dryRun = true) (d : Disk) (path : Path) (text : Except Error String) :
    save s d path text = text.map fun text => (d, text) := by
  cases text <;> simp [save, store, hdry, Except.map]

/-- A step of a dry run leaves the disk. -/
theorem Step.disk_dry (hdry : s.dryRun = true) (h : Step s start x t y) : y.disk = x.disk := by
  have hsaved : ∀ {path : Path} {source : Except Error String} {d : Disk} {text : String},
      save s x.disk path source = .ok (d, text) → d = x.disk := by
    intro path source d text hsave
    rw [save_dry hdry] at hsave
    cases source with
    | error e => cases hsave
    | ok text' => cases hsave; rfl
  have hseeder : ∀ {dir className content}, SeederStep s dir className content x y →
      y.disk = x.disk := by
    intro dir className content h
    cases h with
    | skipped hentry => rfl
    | written d text hnone hsave => exact hsaved hsave
    | failed e hnone hsave => rfl
  cases h with
  | migrationWritten a schema m d text h hm hsave => exact hsaved hsave
  | seeder _ dir className content h => exact hseeder h
  | databaseMade _ habsent h => exact hseeder h
  | databasePatched text patched d hpresent h hpatch hstore =>
    rw [store, if_pos hdry] at hstore
    exact (Except.ok.inj hstore).symm
  | _ => rfl

/-- A step of a dry run does not fail when its text can be made, and the application's seeder, if it
is there, can be read. -/
theorem Step.clean_dry (hdry : s.dryRun = true) (h : Step s start x t y) (hx : Clean x)
    (htext : finds s x.disk t = false → ∃ text, textOf s x.disk t = .ok text)
    (hread : t = .databaseSeeder → finds s x.disk t = true →
      ∃ text, x.disk.read (databasePath s) = .ok text) : Clean y := by
  have hsaved : ∀ {path : Path} {source : Except Error String} {text : String} {e : Error},
      source = .ok text → save s x.disk path source ≠ .error e := by
    rintro path source text e rfl hsave
    rw [save_dry hdry] at hsave
    cases hsave
  cases h with
  | announce message => exact hx
  | migrationSkipped a schema h => exact hx
  | migrationWritten a schema m d text h hm hsave => exact hx
  | migrationFailed a schema m e h hm hsave =>
    obtain ⟨text, htext⟩ := htext (by simp [finds, h])
    exact absurd hsave (hsaved htext)
  | seeder _ dir className content h =>
    cases h with
    | skipped hentry => exact hx
    | written d text hnone hsave => exact hx
    | failed e hnone hsave =>
      obtain ⟨text, htext⟩ := htext hnone
      exact absurd hsave (hsaved htext)
  | databaseMade _ habsent h =>
    cases h with
    | skipped hentry => exact hx
    | written d text hnone hsave => exact hx
    | failed e hnone hsave =>
      obtain ⟨text, htext⟩ := htext hnone
      exact absurd hsave (hsaved htext)
  | databaseUnreadable fault hpresent h =>
    obtain ⟨text, htext⟩ := hread rfl hpresent
    rw [h] at htext
    cases htext
  | databaseCalls text hpresent h hpatch => exact hx
  | databaseLeft text hpresent h hpatch => exact hx
  | databasePatched text patched d hpresent h hpatch hstore => exact hx
  | databaseUnwritable text patched fault hpresent h hpatch hstore =>
    rw [store, if_pos hdry] at hstore
    cases hstore

/-- A task is performed unless it makes a file and the calendar has no stamp for it. -/
theorem exists_perform {p : Progress} (h : finds s p.disk t = false →
      ∃ text f, fileOf? s start p.attempts text t = some f) :
    ∃ p', perform s start p t = .ok p' := by
  cases t with
  | announce message => exact ⟨_, rfl⟩
  | migration a schema =>
    rw [perform]
    split
    next => exact ⟨_, rfl⟩
    next hnone =>
      obtain ⟨text, f, hfile⟩ := h (by simp [finds, hnone])
      obtain ⟨m, hm, -⟩ := Option.map_eq_some_iff.mp hfile
      rw [hm]
      exact ⟨_, rfl⟩
  | seeder dir className content => exact ⟨_, rfl⟩
  | databaseSeeder => exact ⟨_, rfl⟩

end SchemaForge.Run
