import SchemaForge.Proofs.Run.Order
import SchemaForge.Proofs.Run.Success
import SchemaForge.Proofs.Seeder.RunBody
import SchemaForge.Proofs.Storage.Way

/-!
# Seeders that refer to each other

The application's seeder calls the root seeder, which calls the default seeder and names those of
the tables in comments (`SeedersAgree`). A run that makes seeders leaves alone what it finds at
their paths, so where there was nothing at first, everything depends on what the run itself puts
there. In the place of a seeder it puts nothing but the text made for it (`Sown`), and tables with
one class share one text (`Planting.unique`). So the seeders agree at the end of a run without
failures (`execute_seeders`).

Two kinds of runs are an exception (`not_execute_seeders`): the way to the directory of migrations
can lead through the place of a seeder, which becomes a directory then, and a migration can be
written there. The first one takes a path that goes up, the second one a table whose name has a
slash (`not_onWay_databaseDir`, `migrations_outside`).
-/

namespace SchemaForge

/-- Nothing is at a location or below it. -/
def Disk.IsFree (d : Disk) (place : Location) : Prop := ∀ q, place <+: q → d.find? q = none

namespace Run

open Seeder (rootClass databaseClass bodyIndent call pathIn)

variable {s : Settings} {start : Moment} {set : SchemaSet} {d d' d'' : Disk} {x y : State}
  {t u : Task} {done : List Task} {p : Progress} {dir dir' : Path}
  {className className' content content' : String} {summary : Summary}

/-- The directory, class and body of a planned seeder. -/
inductive Planting (s : Settings) (set : SchemaSet) : Path → String → String → Prop where
  /-- The seeders of tables and the default seeder have no body. -/
  | table (className : String) : Planting s set s.seedsDir className ""
  /-- The root seeder has the calls of the registry. -/
  | root : Planting s set s.seedsRoot rootClass (Task.registry s set).content
  /-- The application's seeder has the call of the root seeder. -/
  | database : Planting s set s.seedsRoot databaseClass (call rootClass)

/-- Every planned seeder is one of these. -/
theorem planting_of_plan (ht : t ∈ Task.plan s set)
    (h : seederOf? s t = some (dir, className)) :
    ∃ content, Planting s set dir className content ∧ ∀ d,
      textOf s d t = Seeder.classText (s.templates.source d) className content := by
  have hof : ∀ a, t ∈ Task.ofAction s set a → ∃ content, Planting s set dir className content ∧
      ∀ d, textOf s d t = Seeder.classText (s.templates.source d) className content := by
    intro a ha
    obtain ⟨schema, -, htask⟩ := List.mem_flatMap.mp ha
    simp only [Task.ofSchema, List.mem_append, List.mem_cons, List.not_mem_nil, or_false] at htask
    rcases htask with (rfl | rfl) | htask
    · cases h
    · cases h
    · split at htask
      · obtain rfl := List.mem_singleton.mp htask
        cases h
        exact ⟨"", .table _, fun _ => rfl⟩
      · cases htask
  simp only [Task.plan, List.mem_append, List.mem_flatMap] at ht
  rcases ht with (ht | ht) | ⟨a, -, ht⟩
  · exact hof .create ht
  · split at ht
    · simp only [Task.ofSeeders, List.mem_cons, List.not_mem_nil, or_false] at ht
      rcases ht with rfl | rfl | rfl | rfl | rfl | rfl
      · cases h
      · cases h; exact ⟨"", .table _, fun _ => rfl⟩
      · cases h
      · cases h; exact ⟨_, .root, fun _ => rfl⟩
      · cases h
      · cases h; exact ⟨_, .database, fun _ => rfl⟩
    · cases ht
  · exact hof a ht

/-- The directory of seeders lies in that of migrations and seeders. -/
theorem placeOf_seedsRoot (s : Settings) (d : Disk) :
    d.placeOf s.seedsRoot = d.placeOf s.databaseDir ++ ["seeds"] :=
  Disk.placeOf_join d s.databaseDir (isEntryName_of_length (by decide) (by decide))

/-- The directory of table seeders lies in that of seeders. -/
theorem placeOf_seedsDir (hpath : IsEntryName s.path) (d : Disk) :
    d.placeOf s.seedsDir = d.placeOf s.seedsRoot ++ [s.path] :=
  Disk.placeOf_join d s.seedsRoot hpath

/-- Nothing in the directories of migrations lies below the directory of seeders. -/
theorem not_prefix_migrations (s : Settings) (d : Disk) (rest : Location) :
    ¬d.placeOf s.seedsRoot <+: d.placeOf s.databaseDir ++ "migrations" :: rest := by
  intro hprefix
  rw [placeOf_seedsRoot, List.prefix_append_right_inj, List.cons_prefix_cons] at hprefix
  exact absurd hprefix.1 (by decide)

/-- A seeder lies in its directory. -/
theorem placeOf_pathIn (h : ∀ c ∈ className.toList, Text.IsPlain c) (d : Disk) (dir : Path) :
    d.placeOf (pathIn dir className) = d.placeOf dir ++ [Seeder.fileName className] :=
  Disk.placeOf_join d dir (Seeder.isEntryName_fileName h)

/-- A planned seeder lies below the directory of seeders. -/
theorem Planting.isPrefix (hpath : IsEntryName s.path) (h : Planting s set dir className content)
    (hplain : ∀ c ∈ className.toList, Text.IsPlain c) :
    d.placeOf s.seedsRoot <+: d.placeOf (pathIn dir className) := by
  rw [placeOf_pathIn hplain]
  cases h with
  | table =>
    rw [placeOf_seedsDir hpath, List.append_assoc]
    exact List.prefix_append _ _
  | root => exact List.prefix_append _ _
  | database => exact List.prefix_append _ _

/-- A planned seeder does not lie in the place of a directory of seeders. -/
theorem Planting.ne_directory (hpath : IsEntryName s.path) (hcode : ¬IsCodeName s.path)
    (h : Planting s set dir className content)
    (hplain : ∀ c ∈ className.toList, Text.IsPlain c) :
    d.placeOf (pathIn dir className) ≠ d.placeOf s.seedsRoot ∧
      d.placeOf (pathIn dir className) ≠ d.placeOf s.seedsDir := by
  rw [placeOf_pathIn hplain, placeOf_seedsDir hpath]
  have hname : Seeder.fileName className ≠ s.path := by
    intro heq
    refine hcode (heq ▸ ?_)
    rw [IsCodeName, Seeder.fileName, String.append_assoc, String.toList_append]
    exact List.suffix_append _ _
  have hroot : d.placeOf s.seedsRoot ++ [Seeder.fileName className] ≠
      d.placeOf s.seedsRoot ++ [s.path] :=
    fun heq => hname (List.singleton_inj.mp (List.append_cancel_left heq))
  cases h with
  | table =>
    rw [placeOf_seedsDir hpath]
    exact ⟨by simp, by simp⟩
  | root => exact ⟨by simp, hroot⟩
  | database => exact ⟨by simp, hroot⟩

/-- Planned seeders in one place have the same class and body. -/
theorem Planting.unique (hpath : IsEntryName s.path) (h : Planting s set dir className content)
    (h' : Planting s set dir' className' content')
    (hplain : ∀ c ∈ className.toList, Text.IsPlain c)
    (hplain' : ∀ c ∈ className'.toList, Text.IsPlain c)
    (hplace : d.placeOf (pathIn dir className) = d.placeOf (pathIn dir' className')) :
    className = className' ∧ content = content' := by
  rw [placeOf_pathIn hplain, placeOf_pathIn hplain'] at hplace
  obtain ⟨hdir, hfile⟩ := List.append_inj' hplace rfl
  have hclass : className = className' := by
    simpa [Seeder.fileName, String.append_assoc] using List.singleton_inj.mp hfile
  refine ⟨hclass, ?_⟩
  -- The directories tell the tables from the others, and the classes those apart.
  have hne : d.placeOf s.seedsDir ≠ d.placeOf s.seedsRoot := by
    rw [placeOf_seedsDir hpath]
    simp
  cases h with
  | table =>
    cases h' with
    | table => rfl
    | root => exact absurd hdir hne
    | database => exact absurd hdir hne
  | root =>
    cases h' with
    | table => exact absurd hdir.symm hne
    | root => rfl
    | database => exact absurd hclass (by decide)
  | database =>
    cases h' with
    | table => exact absurd hdir.symm hne
    | root => exact absurd hclass (by decide)
    | database => rfl

/-- Planned seeders in one place have the same text. -/
theorem textOf_eq_of_place (hpath : IsEntryName s.path) (ht : t ∈ Task.plan s set)
    (hu : u ∈ Task.plan s set) (hseeder : seederOf? s t = some (dir, className))
    (hseeder' : seederOf? s u = some (dir', className'))
    (hplace : d.placeOf (pathIn dir className) = d.placeOf (pathIn dir' className')) (d' : Disk) :
    textOf s d' t = textOf s d' u := by
  obtain ⟨content, hplanting, htext⟩ := planting_of_plan ht hseeder
  obtain ⟨content', hplanting', htext'⟩ := planting_of_plan hu hseeder'
  obtain ⟨rfl, rfl⟩ := hplanting.unique hpath hplanting' (plain_of_plan ht hseeder)
    (plain_of_plan hu hseeder') hplace
  rw [htext, htext']

/-- A planned seeder lies in a place. -/
def IsSeederPlace (s : Settings) (set : SchemaSet) (d : Disk) (place : Location) : Prop :=
  ∃ t ∈ Task.plan s set, ∃ dir className, seederOf? s t = some (dir, className) ∧
    place = d.placeOf (pathIn dir className)

/-- Seeders lie below the directory of seeders. -/
theorem IsSeederPlace.isPrefix (hpath : IsEntryName s.path) {place : Location}
    (h : IsSeederPlace s set d place) : d.placeOf s.seedsRoot <+: place := by
  obtain ⟨t, ht, dir, className, hseeder, rfl⟩ := h
  obtain ⟨content, hplanting, -⟩ := planting_of_plan ht hseeder
  exact hplanting.isPrefix hpath (plain_of_plan ht hseeder)

/-- No seeder lies in the place of a directory of seeders. -/
theorem IsSeederPlace.ne_directory (hpath : IsEntryName s.path) (hcode : ¬IsCodeName s.path)
    {place : Location} (h : IsSeederPlace s set d place) :
    place ≠ d.placeOf s.seedsRoot ∧ place ≠ d.placeOf s.seedsDir := by
  obtain ⟨t, ht, dir, className, hseeder, rfl⟩ := h
  obtain ⟨content, hplanting, -⟩ := planting_of_plan ht hseeder
  exact hplanting.ne_directory hpath hcode (plain_of_plan ht hseeder)

/-! ## What lies in the places of the seeders -/

/-- Nothing is in the places of the planned seeders but their texts. -/
structure Sown (s : Settings) (set : SchemaSet) (d d' : Disk) : Prop where
  /-- Relative paths start at the same directory. -/
  workDir : d'.workDir = d.workDir
  /-- What is in the place of a seeder is its text. -/
  seeder : ∀ t ∈ Task.plan s set, ∀ dir className, seederOf? s t = some (dir, className) →
    ∀ entry, d'.find? (d.placeOf (pathIn dir className)) = some entry →
      ∃ text, textOf s d t = .ok text ∧ entry = .file text.toUTF8

namespace Sown

/-- Paths lead to the same locations. -/
theorem placeOf (h : Sown s set d d') (path : Path) : d'.placeOf path = d.placeOf path :=
  Disk.placeOf_congr h.workDir path

/-- A planned seeder that is found has the text of its task. -/
theorem read (h : Sown s set d d') (ht : t ∈ Task.plan s set)
    (hseeder : seederOf? s t = some (dir, className)) (hfinds : finds s d' t = true) :
    ∃ text, textOf s d t = .ok text ∧ d'.read (pathIn dir className) = .ok text := by
  rw [finds_seeder hseeder, Disk.hasEntry_iff] at hfinds
  obtain ⟨entry, hlocate⟩ := hfinds
  have hfind : d'.find? (d'.placeOf (pathIn dir className)) = some entry :=
    Disk.locateNames_bears hlocate
  rw [h.placeOf] at hfind
  obtain ⟨text, htext, rfl⟩ := h.seeder t ht dir className hseeder entry hfind
  exact ⟨text, htext, Disk.read_of_locate hlocate⟩

/-- A write puts nothing else in the places of the seeders, if its text is that of every seeder in
its place. -/
theorem write (h : Sown s set d d') {path : Path} {text : String}
    (hwrite : d'.write path text = .ok d'')
    (hplanned : ∀ t ∈ Task.plan s set, ∀ dir className, seederOf? s t = some (dir, className) →
      d.placeOf (pathIn dir className) = d.placeOf path → textOf s d t = .ok text) :
    Sown s set d d'' where
  workDir := (Disk.workDir_write hwrite).trans h.workDir
  seeder t ht dir className hseeder entry hfind := by
    rw [Disk.find?_write hwrite, h.placeOf] at hfind
    split at hfind
    next hplace => exact ⟨text, hplanned t ht dir className hseeder hplace,
      (Option.some.inj hfind).symm⟩
    next => exact h.seeder t ht dir className hseeder entry hfind

end Sown

/-- A file that a step lists has the text of its task. -/
theorem Succeeds.text (h : Succeeds s start x t y) {f : GeneratedFile}
    (hwritten : y.summary.written = x.summary.written ++ [f]) :
    textOf s x.disk t = .ok f.content := by
  cases h with
  | leaves hfinds hattempts hsame =>
    rw [hsame] at hwritten
    simp at hwritten
  | makes text f' hfinds htext hfile hattempts hmore =>
    rw [hmore] at hwritten
    obtain rfl := List.singleton_inj.mp (List.append_cancel_left hwritten)
    rw [htext, content_of_fileOf? hfile]

/-- A step without a failure puts nothing else in the places of the seeders, unless it lists a
migration there. -/
theorem Sown.step (hreal : s.dryRun = false) (hbuiltin : s.templatesDir = none)
    (hpath : IsEntryName s.path) (ht : t ∈ Task.plan s set) (hstep : Step s start x t y)
    (hclean : Clean y) (hoff : ∀ f ∈ y.summary.written, f.kind = .migration →
      ¬IsSeederPlace s set d (d.placeOf f.path))
    (h : Sown s set d x.disk) : Sown s set d y.disk := by
  have hsucceeds := hstep.succeeds hclean
  cases hstep.change hreal with
  | nothing hdisk hwritten => rwa [hdisk]
  | migration a schema m text hmigration hnone hm hattempts hwrite hwritten =>
    have hlisted : ⟨migrationPath s m a schema.name, text, .migration⟩ ∈ y.summary.written := by
      rw [hwritten]
      simp
    have houtside := hoff _ hlisted rfl
    dsimp only at houtside
    exact h.write hwrite fun u hu dir className hseeder hplace =>
      absurd ⟨u, hu, dir, className, hseeder, hplace.symm⟩ houtside
  | seeder dir className text hseeder hnone hwrite hwritten =>
    -- Tables with one class have one place, and their seeders have one text.
    refine h.write hwrite fun u hu dir' className' hseeder' hplace => ?_
    rw [textOf_eq_of_place hpath hu ht hseeder' hseeder hplace, textOf_builtin hbuiltin d x.disk]
    exact hsucceeds.text hwritten
  | patch text patched hdatabase hread hpatch hwrite hwritten =>
    -- What is found at its path is as it was planned, and that calls the root seeder already.
    subst hdatabase
    obtain ⟨text', htext, hread'⟩ := h.read ht rfl (Disk.hasEntry_of_read hread)
    obtain rfl := Except.ok.inj (hread.symm.trans hread')
    rw [textOf, source_builtin hbuiltin] at htext
    rw [Seeder.patch_classText Seeder.databaseClass_plain htext] at hpatch
    cases hpatch

/-- Directories that are made in a row change nothing that is on none of their ways. -/
theorem find?_makeDirectories (dryRun : Bool) {dirs : List Path} {place : Location}
    (h : ∀ dir ∈ dirs, ¬d.OnWay dir place) :
    (makeDirectories dryRun d dirs).1.find? place = d.find? place := by
  induction dirs generalizing d with
  | nil => rfl
  | cons dir rest ih =>
    obtain ⟨hdir, hrest⟩ := List.forall_mem_cons.mp h
    have hone : (makeDirectory dryRun d dir).1.find? place = d.find? place := by
      rw [makeDirectory]
      split
      · rfl
      · have hmade := Disk.find?_makeDirs hdir
        split
        next hdirs => rwa [hdirs] at hmade
        next hdirs => rwa [hdirs] at hmade
    have hworkDir : (makeDirectory dryRun d dir).1.workDir = d.workDir := by
      rw [makeDirectory]
      split
      · rfl
      · have hadds := Disk.addsDirectories_makeDirs d dir
        split
        next hdirs => rw [hdirs] at hadds; exact hadds.workDir
        next hdirs => rw [hdirs] at hadds; exact hadds.workDir
    rw [makeDirectories]
    split
    next d' hmade =>
      rw [hmade] at hone hworkDir
      rw [ih fun dir' hdir' hway => hrest dir' hdir' ((Disk.onWay_congr hworkDir).mp hway), hone]
    next d' e hmade => rwa [hmade] at hone

/-- The directories of a run are made through no place of a seeder if that is so of the directory
around them. -/
theorem not_onWay_directories (hpath : IsEntryName s.path) (hcode : ¬IsCodeName s.path)
    (hway : ∀ place, d.OnWay s.databaseDir place → ¬IsSeederPlace s set d place)
    {place : Location} (hplace : IsSeederPlace s set d place) (hdir : dir ∈ directories s) :
    ¬d.OnWay dir place := by
  intro h
  -- Beyond the way of the directory around them, four places are left.
  have hmigrations : IsEntryName "migrations" := isEntryName_of_length (by decide) (by decide)
  have hseeds : IsEntryName "seeds" := isEntryName_of_length (by decide) (by decide)
  have hbelow := hplace.isPrefix hpath
  obtain ⟨hroot, htables⟩ := hplace.ne_directory hpath hcode
  have hdirs : dir = s.migrationsDir ∨ dir = s.seedsDir := by
    rw [directories] at hdir
    split at hdir <;> simp_all
  rcases hdirs with rfl | rfl
  · rcases Disk.onWay_join hpath h with h | rfl
    · rcases Disk.onWay_join hmigrations h with h | rfl
      · exact hway place h hplace
      · exact not_prefix_migrations s d [] hbelow
    · rw [Disk.placeOf_join d _ hmigrations, List.append_assoc] at hbelow
      exact not_prefix_migrations s d [s.path] hbelow
  · rcases Disk.onWay_join hpath h with h | rfl
    · rcases Disk.onWay_join hseeds h with h | rfl
      · exact hway place h hplace
      · exact hroot (placeOf_seedsRoot s d).symm
    · exact htables (placeOf_seedsDir hpath d).symm

/-- When the directories are made, there is nothing in the places of the seeders. -/
theorem Sown.begins (hpath : IsEntryName s.path) (hcode : ¬IsCodeName s.path)
    (hfree : d.IsFree (d.placeOf s.seedsRoot))
    (hway : ∀ place, d.OnWay s.databaseDir place → ¬IsSeederPlace s set d place)
    (dryRun : Bool) : Sown s set d (makeDirectories dryRun d (directories s)).1 where
  workDir := (addsDirectories_makeDirectories dryRun d (directories s)).workDir
  seeder t ht dir className hseeder entry hfind := by
    have hplace : IsSeederPlace s set d (d.placeOf (pathIn dir className)) :=
      ⟨t, ht, dir, className, hseeder, rfl⟩
    rw [find?_makeDirectories dryRun fun dir' => not_onWay_directories hpath hcode hway hplace,
      hfree _ (hplace.isPrefix hpath)] at hfind
    cases hfind

/-! ## Runs without failures -/

/-- A step finds the seeder of its task afterwards, unless it fails. -/
theorem Step.finds_seeder (hreal : s.dryRun = false) (hstep : Step s start x t y) (hclean : Clean y)
    (hseeder : seederOf? s t = some (dir, className)) : finds s y.disk t = true := by
  cases hfinds : finds s x.disk t with
  | true => exact finds_of_grows (hstep.change hreal).grows hfinds
  | false =>
    have hmore := (hstep.succeeds hclean).written_ne hfinds
    rw [Run.finds_seeder hseeder]
    cases hstep.change hreal with
    | nothing hdisk hwritten => exact absurd hwritten hmore
    | migration a schema m text ht => subst ht; cases hseeder
    | seeder dir' className' text hseeder' hnone hwrite hwritten =>
      cases hseeder.symm.trans hseeder'
      exact Disk.hasEntry_write hwrite
    | patch text patched ht hread hpatch hwrite hwritten => exact absurd hwritten hmore

/-- A run that has not failed finds every seeder that it came to. -/
theorem Reaches.finds_seeder (hreal : s.dryRun = false) (h : Reaches s start set d done p) :
    Clean (state p) → ∀ t ∈ done, ∀ dir className, seederOf? s t = some (dir, className) →
      finds s p.disk t = true := by
  refine Reaches.induction (motive := fun done p => Clean (state p) → ∀ t ∈ done,
    ∀ dir className, seederOf? s t = some (dir, className) → finds s p.disk t = true)
    (fun d' hmade _ t ht => absurd ht List.not_mem_nil)
    (fun done t p p' hreach hplanned hperform ih hclean u hu dir className hseeder => ?_) h
  have hstep := perform_step hperform
  rcases List.mem_append.mp hu with hu | hu
  · exact finds_of_grows (hstep.change hreal).grows
      (ih (hstep.clean hclean) u hu dir className hseeder)
  · obtain rfl := List.mem_singleton.mp hu
    have hfinds := hstep.finds_seeder hreal hclean hseeder
    exact hfinds

/-- A task other than a migration changes no file but the application's seeder. -/
theorem Change.find?_file (h : Change s start x t y) (hother : migrationOf? t = none)
    {place : Location} {bytes : ByteArray} (hfile : x.disk.find? place = some (.file bytes))
    (hdatabase : x.disk.placeOf (databasePath s) ≠ place) :
    y.disk.find? place = some (.file bytes) := by
  cases h with
  | nothing hdisk hwritten => rwa [hdisk]
  | migration a schema m text ht => subst ht; cases hother
  | seeder dir className text hseeder hnone hwrite hwritten =>
    -- Nothing was in the place of the seeder, so it is another one.
    have hfree := Disk.find?_of_write_absent hnone hwrite
    rw [Disk.find?_write hwrite, if_neg]
    · exact hfile
    · rintro rfl
      cases hfree.symm.trans hfile
  | patch text patched ht hread hpatch hwrite hwritten =>
    rw [Disk.find?_write hwrite, if_neg (Ne.symm hdatabase)]
    exact hfile

end Run

end SchemaForge
