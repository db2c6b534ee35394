import Mathlib.Data.List.Nodup
import SchemaForge.Proofs.Run.Traces
import SchemaForge.Proofs.Storage.Before

/-!
# Dry runs as forecasts

A dry run performs the tasks of a real run, but each of them sees the disk as it was at the start.
So it lists a file twice that the real run makes once and finds again: when a table is listed twice,
or two tables share a seeder. `execute_forecast` says exactly when a dry run that ends well
predicts a real run: no two files that it lists have the same key, and the directories that a real
run makes change neither what a task finds nor the text that it makes (`Foreseen`). Only the keys
matter where the directories are there (`foreseen_iff_of_present`), and also where they are missing
if no path goes up (`foreseen_iff_of_neverUp`).

The two runs go through their tasks side by side. As long as the real run is foreseen, their
counters and lists are the same (`Matches`). In any case it lists no more files than the dry run,
and as many only if it is foreseen (`Reaches.forecast`).
-/

namespace SchemaForge.Run

variable {s : Settings} {start : Moment} {set : SchemaSet} {d d' : Disk} {x y z : State}
  {t : Task} {done : List Task} {p q : Progress}

/-- The settings of a dry run, all others being the same. -/
def dry (s : Settings) : Settings := { s with dryRun := true }

/-- What tasks make on a disk that they leave as it is can be foreseen of a real run on a later
disk. -/
structure Foreseen (s : Settings) (d d' : Disk) (tasks : List Task) : Prop where
  /-- They find nothing more on the later disk. -/
  found : ∀ t ∈ tasks, finds s d' t = true → finds s d t = true
  /-- They make no other texts there. -/
  text : ∀ t ∈ tasks, finds s d t = false → ∀ text,
    textOf s d' t = .ok text → textOf s d t = .ok text
  /-- No two of them make files with the same key. -/
  distinct : (made s d tasks).Nodup

/-- The dry run predicts a summary of the real run: it ends without failures, lists the same files
and leaves as many alone. -/
def Predicts (s : Settings) (start : Moment) (set : SchemaSet) (d : Disk) (summary : Summary) :
    Prop :=
  ∃ predicted, (execute (dry s) start set d).ending = .finished predicted ∧
    predicted.isSuccess = true ∧ predicted.written = summary.written ∧
    predicted.skipped = summary.skipped

/-- One more task is foreseen when it finds nothing more, makes no other text and no file with a key
that was made. -/
theorem Foreseen.snoc (h : Foreseen s d d' done)
    (hfound : finds s d' t = true → finds s d t = true)
    (htext : finds s d t = false → ∀ text, textOf s d' t = .ok text → textOf s d t = .ok text)
    (hnew : finds s d t = false → ∀ k, keyOf? s d t = some k → k ∉ made s d done) :
    Foreseen s d d' (done ++ [t]) := by
  refine ⟨?_, ?_, ?_⟩
  · exact List.forall_mem_append.mpr ⟨h.found, List.forall_mem_singleton.mpr hfound⟩
  · exact List.forall_mem_append.mpr ⟨h.text, List.forall_mem_singleton.mpr htext⟩
  · rw [made_snoc]
    cases hfinds : finds s d t with
    | true => simpa using h.distinct
    | false =>
      cases hkey : keyOf? s d t with
      | none => simpa using h.distinct
      | some k =>
        rw [if_neg Bool.false_ne_true, Option.toList_some, List.nodup_append]
        refine ⟨h.distinct, List.nodup_singleton k, fun k' hk' other hother => ?_⟩
        rintro rfl
        rw [List.mem_singleton.mp hother] at hk'
        exact hnew hfinds k hkey hk'

/-! ## Side by side -/

/-- A dry run makes no directories. -/
theorem makeDirectories_dry (d : Disk) (dirs : List Path) :
    makeDirectories true d dirs = (d, .ok ()) := by
  induction dirs with
  | nil => rfl
  | cons dir rest ih =>
    rw [makeDirectories, makeDirectory, if_pos (.inl rfl)]
    exact ih

/-- A dry run reaches nothing but the disk on which it starts. -/
theorem Reaches.disk_dry (h : Reaches (dry s) start set d done q) : q.disk = d := by
  refine Reaches.induction (motive := fun _ q => q.disk = d) (fun d' hmade => ?_)
    (fun done t q q' hreach hplanned hperform ih => ?_) h
  · have hnone := (makeDirectories_dry d (directories (dry s))).symm.trans hmade
    exact (congrArg Prod.fst hnone).symm
  · exact ((perform_step hperform).disk_dry rfl).trans ih

/-- A dry run has come as far as a real one: with the same counters and the same list, and without a
failure. -/
structure Matches (d : Disk) (x z : State) : Prop where
  /-- The disk is the one on which the run started. -/
  disk : z.disk = d
  /-- As many migrations were attempted. -/
  attempts : z.attempts = x.attempts
  /-- The same files are listed. -/
  written : z.summary.written = x.summary.written
  /-- As many files were left alone. -/
  skipped : z.summary.skipped = x.summary.skipped
  /-- Nothing has failed. -/
  clean : Clean z

/-- A task does on a later disk what it does on an earlier one. -/
structure Agrees (s : Settings) (d d' : Disk) (t : Task) : Prop where
  /-- It finds the same. -/
  finds : Run.finds s d' t = Run.finds s d t
  /-- It makes the same text. -/
  text : Run.finds s d t = false → textOf s d' t = textOf s d t
  /-- It reads the same text of the application's seeder. -/
  read : t = .databaseSeeder → Run.finds s d t = true →
    d'.read (databasePath s) = d.read (databasePath s)

/-- A task that does the same leaves alone as many files. -/
theorem Agrees.leftBy_eq (h : Agrees s d d' t) (hfound : Run.finds s d t = true) :
    leftBy s d' t = leftBy s d t := by
  cases t with
  | databaseSeeder => rw [leftBy, leftBy, h.read rfl hfound]
  | _ => rfl

/-- The runs still match after a task that does the same in both of them. -/
theorem Matches.step {x' z' : State} (h : Matches d x z) (hagrees : Agrees s d x.disk t)
    (hx : Succeeds s start x t x') (hz : Succeeds (dry s) start z t z')
    (hdisk : z'.disk = z.disk) (hclean : Clean z') : Matches d x' z' := by
  obtain ⟨rfl, hattempts₀, hwritten₀, hskipped₀, -⟩ := h
  -- Both runs find the task's file or both make it, so two of the four cases are left.
  cases hx with
  | leaves hfound hattempts hwritten hskipped =>
    cases hz with
    | leaves hfound' hattempts' hwritten' hskipped' =>
      have hleft : leftBy (dry s) z.disk t = leftBy s x.disk t := (hagrees.leftBy_eq hfound').symm
      exact ⟨hdisk, by rw [hattempts', hattempts, hattempts₀],
        by rw [hwritten', hwritten, hwritten₀], by rw [hskipped', hskipped, hskipped₀, hleft],
        hclean⟩
    | makes text f hnone =>
      exact absurd (hnone.symm.trans (hagrees.finds.symm.trans hfound)) Bool.false_ne_true
  | makes text f hnone htext hfile hattempts hwritten hskipped =>
    cases hz with
    | leaves hfound =>
      exact absurd (hnone.symm.trans (hagrees.finds.trans hfound)) Bool.false_ne_true
    | makes text' f' hnone' htext' hfile' hattempts' hwritten' hskipped' =>
      obtain rfl : text = text' :=
        Except.ok.inj (htext.symm.trans ((hagrees.text hnone').trans htext'))
      obtain rfl : f = f' := by
        rw [hattempts₀] at hfile'
        exact Option.some.inj (hfile.symm.trans hfile')
      exact ⟨hdisk, by rw [hattempts', hattempts, hattempts₀],
        by rw [hwritten', hwritten, hwritten₀], by rw [hskipped', hskipped, hskipped₀], hclean⟩

/-- A dry run that matches a real one performs a task that does the same in both of them, and
matches it afterwards. -/
theorem Matches.perform (h : Matches d (state p) (state q)) (hagrees : Agrees s d p.disk t)
    (hstep : Step s start (state p) t y) (hy : Clean y) :
    ∃ q', perform (dry s) start q t = .ok q' ∧ Matches d y (state q') := by
  obtain rfl : q.disk = d := h.disk
  have hattempts : q.attempts = p.attempts := h.attempts
  have hsucceeds := hstep.succeeds hy
  have hmakes : finds s q.disk t = false → ∃ text f, textOf s q.disk t = .ok text ∧
      fileOf? s start q.attempts text t = some f := by
    intro hnone
    cases hsucceeds with
    | leaves hfound =>
      exact absurd (hnone.symm.trans (hagrees.finds.symm.trans hfound)) Bool.false_ne_true
    | makes text f _ htext hfile =>
      exact ⟨text, f, (hagrees.text hnone).symm.trans htext, by rwa [hattempts]⟩
  have hread : t = .databaseSeeder → finds s q.disk t = true →
      ∃ text, q.disk.read (databasePath s) = .ok text := by
    rintro rfl hfound
    rw [← hagrees.read rfl hfound]
    exact hstep.read_database hy (hagrees.finds.trans hfound)
  obtain ⟨q', hperform⟩ : ∃ q', Run.perform (dry s) start q t = .ok q' :=
    exists_perform fun hnone => (hmakes hnone).imp fun text ⟨f, _, hfile⟩ => ⟨f, hfile⟩
  have hstep' := perform_step hperform
  have hclean' : Clean (state q') := hstep'.clean_dry rfl h.clean
    (fun hnone => (hmakes hnone).imp fun text ⟨f, htext, _⟩ => htext) hread
  exact ⟨q', hperform,
    h.step hagrees hsucceeds (hstep'.succeeds hclean') (hstep'.disk_dry rfl) hclean'⟩

/-! ## Foreseen runs -/

/-- A real run that is foreseen finds what a dry run finds. -/
theorem Foreseen.finds_eq (hnames : PlainNames set) (hreal : s.dryRun = false)
    (hforeseen : Foreseen s d (prepared s d) (Task.plan s set))
    (h : Reaches s start set d done p) (hplanned : done ++ [t] <+: Task.plan s set) :
    finds s p.disk t = finds s d t := by
  have ht : t ∈ Task.plan s set := hplanned.subset (by simp)
  have htraces := h.traces hreal hnames
  have hadds := addsDirectories_prepared s d
  cases hfinds : finds s d t with
  | true => exact finds_of_grows (hadds.grows.trans htraces.grows) hfinds
  | false =>
    have hbegins : finds s (prepared s d) t = false := by
      by_contra hfound
      rw [hforeseen.found t ht (by simpa using hfound)] at hfinds
      cases hfinds
    rw [← hbegins]
    refine htraces.finds_eq ht (h.hasDirectory_prepared hreal) fun k hkey hk => ?_
    -- The key would be made twice by the tasks up to this one.
    have hkeys := fun u => keyOf?_congr (s := s) (fun p => hadds.grows.placeOf p) u
    have hbefore : k ∈ made s d done := by
      obtain ⟨u, hu, hnone, hukey⟩ := mem_made.mp hk
      exact mem_made.mpr
        ⟨u, hu, not_finds_of_grows hadds.grows hnone, (hkeys u).symm.trans hukey⟩
    have hdistinct : (made s d (done ++ [t])).Nodup :=
      hforeseen.distinct.sublist (hplanned.sublist.filterMap _)
    rw [made_snoc, hfinds, if_neg Bool.false_ne_true, ← hkeys t, hkey, Option.toList_some,
      List.nodup_append] at hdistinct
    exact hdistinct.2.2 k hbefore k (List.mem_singleton_self k) rfl

/-- A task of a real run that is foreseen does what it does in a dry run, unless it fails. -/
theorem Foreseen.agrees (hnames : PlainNames set) (hreal : s.dryRun = false)
    (hforeseen : Foreseen s d (prepared s d) (Task.plan s set))
    (h : Reaches s start set d done p) (hplanned : done ++ [t] <+: Task.plan s set)
    (hstep : Step s start (state p) t y) (hy : Clean y) : Agrees s d p.disk t := by
  have htraces := h.traces hreal hnames
  have hfinds : finds s p.disk t = finds s d t := hforeseen.finds_eq hnames hreal h hplanned
  refine ⟨hfinds, fun hnone => ?_, ?_⟩
  · cases hstep.succeeds hy with
    | leaves hfound => exact absurd (hnone.symm.trans (hfinds.symm.trans hfound)) Bool.false_ne_true
    | makes text f _ htext hfile =>
      have hbefore := hforeseen.text t (hplanned.subset (by simp)) hnone text
        (htraces.writes.textOf htext)
      exact htext.trans hbefore.symm
  · -- The application's seeder was not touched before its turn.
    rintro rfl hfound
    obtain ⟨text, htext⟩ := hstep.read_database hy (hfinds.trans hfound)
    have hbefore := htraces.read_database (addsDirectories_prepared s d)
      (databaseSeeder_not_mem hplanned) hfound htext
    exact htext.trans hbefore.symm

/-- A dry run goes as far as a real run that is foreseen and has not failed, and matches it. -/
theorem Foreseen.matches (hnames : PlainNames set) (hreal : s.dryRun = false)
    (hforeseen : Foreseen s d (prepared s d) (Task.plan s set))
    (h : Reaches s start set d done p) :
    Clean (state p) → ∃ q, Reaches (dry s) start set d done q ∧ Matches d (state p) (state q) := by
  refine Reaches.induction (motive := fun done p => Clean (state p) →
    ∃ q, Reaches (dry s) start set d done q ∧ Matches d (state p) (state q))
    (fun d' hmade _ => ?_) (fun done t p p' hreach hplanned hperform ih hclean => ?_) h
  · have hmade' := makeDirectories_dry d (directories (dry s))
    exact ⟨begin (dry s) set d d, ⟨List.nil_prefix, d, hmade', rfl⟩, rfl, rfl, rfl, rfl, rfl, rfl⟩
  · have hstep := perform_step hperform
    obtain ⟨q, hq, hmatches⟩ := ih (hstep.clean hclean)
    have hagrees := hforeseen.agrees hnames hreal hreach hplanned hstep hclean
    obtain ⟨q', hperform', hmatches'⟩ := hmatches.perform hagrees hstep hclean
    exact ⟨q', hq.snoc hplanned hperform', hmatches'⟩

/-! ## What a forecast shows -/

/-- The file that a task makes has the text that was made for it. -/
theorem content_of_fileOf? {attempts : Nat} {text : String} {f : GeneratedFile}
    (h : fileOf? s start attempts text t = some f) : f.content = text := by
  cases t with
  | announce message => cases h
  | migration a schema =>
    obtain ⟨m, -, rfl⟩ := Option.map_eq_some_iff.mp h
    rfl
  | seeder dir className content => cases h; rfl
  | databaseSeeder => cases h; rfl

/-- When a task finds in a real run what it finds in a dry run, the real run lists no more files
afterwards. If the lists are the same, they were so before, and the task has found the same and made
the same text. -/
theorem Succeeds.forecast {x' z' : State} (hx : Succeeds s start x t x')
    (hz : Succeeds (dry s) start z t z')
    (hle : x.summary.written.length ≤ z.summary.written.length)
    (hfound : finds s z.disk t = true → finds s x.disk t = true) :
    x'.summary.written.length ≤ z'.summary.written.length ∧
      (x'.summary.written = z'.summary.written → x.summary.written = z.summary.written ∧
        finds s x.disk t = finds s z.disk t ∧ (finds s x.disk t = false →
          ∃ text, textOf s x.disk t = .ok text ∧ textOf s z.disk t = .ok text)) := by
  cases hx with
  | leaves hthere hattempts hwritten =>
    rw [hwritten, hthere]
    cases hz with
    | leaves hthere' hattempts' hwritten' =>
      rw [hwritten']
      exact ⟨hle, fun hsame => ⟨hsame, hthere'.symm, fun hnone => by cases hnone⟩⟩
    | makes text' f' hnone' htext' hfile' hattempts' hwritten' =>
      -- The dry run is ahead by a file from now on.
      rw [hwritten', List.length_append, List.length_singleton]
      refine ⟨by omega, fun hsame => ?_⟩
      have hlength := congrArg List.length hsame
      rw [List.length_append, List.length_singleton] at hlength
      omega
  | makes text f hnone htext hfile hattempts hwritten =>
    cases hz with
    | leaves hthere' => exact absurd (hnone.symm.trans (hfound hthere')) Bool.false_ne_true
    | makes text' f' hnone' htext' hfile' hattempts' hwritten' =>
      rw [hwritten, hwritten', List.length_append, List.length_append]
      refine ⟨Nat.add_le_add_right hle 1, fun hsame => ?_⟩
      obtain ⟨hbefore, hlast⟩ := List.append_inj' hsame rfl
      obtain rfl := List.singleton_inj.mp hlast
      obtain rfl : text = text' :=
        (content_of_fileOf? hfile).symm.trans (content_of_fileOf? hfile')
      exact ⟨hbefore, hnone.trans hnone'.symm, fun _ => ⟨text, htext, htext'⟩⟩

/-- A real run that has not failed lists no more files than a dry run that has not failed, and what
it did is foreseen if both list the same files. -/
theorem Reaches.forecast (hreal : s.dryRun = false) (hnames : PlainNames set)
    (hstamps : PlainStamps s start set d) (h : Reaches s start set d done p) :
    Clean (state p) → ∀ q, Reaches (dry s) start set d done q → Clean (state q) →
      p.summary.written.length ≤ q.summary.written.length ∧
        (p.summary.written = q.summary.written → Foreseen s d (prepared s d) done) := by
  refine Reaches.induction (motive := fun done p => Clean (state p) →
    ∀ q, Reaches (dry s) start set d done q → Clean (state q) →
      p.summary.written.length ≤ q.summary.written.length ∧
        (p.summary.written = q.summary.written → Foreseen s d (prepared s d) done))
    (fun d' hmade _ q hq _ => ⟨Nat.zero_le _, fun _ => ?_⟩)
    (fun done t p p' hreach hplanned hperform ih hclean q' hq' hclean' => ?_) h
  · exact ⟨fun t ht => absurd ht List.not_mem_nil, fun t ht => absurd ht List.not_mem_nil, .nil⟩
  · -- The lengths carry the induction: lists that are the same in the end never were of different
    -- lengths, as the dry run does not lose its lead.
    obtain ⟨q, hq, hperform'⟩ := hq'.exists_before
    have hstep := perform_step hperform
    have hstep' := perform_step hperform'
    have ht : t ∈ Task.plan s set := hplanned.subset (by simp)
    have htraces := hreach.traces hreal hnames
    have hgrows := (addsDirectories_prepared s d).grows.trans htraces.grows
    obtain rfl : d = q.disk := hq.disk_dry.symm
    obtain ⟨hle, hforeseen⟩ := ih (hstep.clean hclean) q hq (hstep'.clean hclean')
    obtain ⟨hle', hsame'⟩ := (hstep.succeeds hclean).forecast (hstep'.succeeds hclean') hle
      (finds_of_grows hgrows)
    refine ⟨hle', fun hsame => ?_⟩
    obtain ⟨hsame, hfinds, htext⟩ := hsame' hsame
    refine (hforeseen hsame).snoc (fun hfound => ?_) (fun hnone text hbegins => ?_)
      fun hnone k hkey hk => ?_
    · exact hfinds.symm.trans (finds_of_grows htraces.grows hfound)
    · obtain ⟨text', hnow, hbefore⟩ := htext (hfinds.trans hnone)
      obtain rfl := Except.ok.inj (hbegins.symm.trans (htraces.writes.textOf hnow))
      exact hbefore
    · -- What was made before is present, and what is present is not made.
      obtain ⟨u, hu, -, hukey⟩ := mem_made.mp hk
      have hpresent := hreach.present hreal hnames hstamps (hstep.clean hclean) u hu k hukey
      exact (hstep.change hreal).not_present hnames ht
        ((hstep.succeeds hclean).written_ne (hfinds.trans hnone))
        ((keyOf?_congr hgrows.placeOf t).trans hkey) hpresent

/-! ## Predicted runs -/

/-- Where its directories are there, a real run begins on the disk as it is. -/
theorem prepared_of_present (h : ∀ dir ∈ directories s, d.hasDirectory dir = true) :
    prepared s d = d := by
  rw [prepared, makeDirectories_of_present false h]

/-- Where the directories of a real run are there, what its tasks make is foreseen when no two files
have the same key. -/
theorem foreseen_iff_of_present (h : ∀ dir ∈ directories s, d.hasDirectory dir = true)
    (tasks : List Task) : Foreseen s d (prepared s d) tasks ↔ (made s d tasks).Nodup := by
  rw [prepared_of_present h]
  refine ⟨Foreseen.distinct, fun hdistinct => ⟨fun _ _ hfound => hfound, ?_, hdistinct⟩⟩
  exact fun _ _ _ _ htext => htext

/-- No path of a run goes up. -/
def NeverUp (s : Settings) : Prop :=
  ∀ dir ∈ s.migrationsDir :: s.seedsDir :: s.seedsRoot :: s.templatesDir.toList, ".." ∉ dir.names

/-- Where no path goes up, what a task finds when directories are made it finds without them, unless
one of them is made in the place of a seeder. -/
theorem finds_before (hadds : d.AddsDirectories d') (hup : NeverUp s)
    (ht : t ∈ Task.plan s set)
    (hfree : ∀ place, keyOf? s d t = some (.seeder place) → d'.find? place ≠ some .directory)
    (hfinds : finds s d' t = true) : finds s d t = true := by
  have hseeder : ∀ {dir className}, seederOf? s t = some (dir, className) →
      finds s d t = true := by
    intro dir className hseeder
    have hname := Seeder.isEntryName_fileName (plain_of_plan ht hseeder)
    have hdir : ".." ∉ dir.names := by
      rcases (seeder_of_plan ht hseeder).1 with rfl | rfl <;> exact hup _ (by simp)
    rw [finds_seeder hseeder] at hfinds ⊢
    refine hadds.hasEntry_before (Path.up_not_mem_join hdir hname) hfinds ?_
    obtain ⟨entry, hentry⟩ := Option.isSome_iff_exists.mp (Disk.isSome_find?_of_hasEntry hfinds)
    rw [hadds.keeps.placeOf] at hentry
    cases entry with
    | directory => exact absurd hentry (hfree _ (keyOf?_seeder hseeder))
    | file content => exact Option.isSome_iff_exists.mpr ⟨_, hadds.file _ _ hentry⟩
  cases t with
  | announce message => rfl
  | migration a schema =>
    rw [finds_migration, findMigrations_ne_nil, ← Disk.hasEntry_iff] at hfinds ⊢
    obtain ⟨hdir, place, hsees, hsuffix⟩ := hfinds
    rw [hadds.sees] at hsees
    obtain ⟨content, hcontent⟩ := Disk.isFile_iff.mp hsees.isFile
    -- Its file was there without the added directories, so its directory was, too.
    have hthere : (d.find? (d.placeOf s.migrationsDir)).isSome :=
      Disk.isSome_above hsees.below (by simp [hcontent])
    exact ⟨hadds.hasEntry_before (hup _ (by simp)) hdir hthere, place, hsees, hsuffix⟩
  | seeder dir className content => exact hseeder rfl
  | databaseSeeder => exact hseeder rfl

/-- Where no path goes up, what the tasks of a run make is foreseen when no two files have the same
key, whatever directories are missing. -/
theorem foreseen_iff_of_neverUp (hup : NeverUp s)
    (hfree : ∀ t ∈ Task.plan s set, ∀ place, keyOf? s d t = some (.seeder place) →
      (prepared s d).find? place ≠ some .directory) :
    Foreseen s d (prepared s d) (Task.plan s set) ↔ (made s d (Task.plan s set)).Nodup := by
  have hadds := addsDirectories_prepared s d
  refine ⟨Foreseen.distinct, fun hdistinct => ⟨fun t ht => ?_, fun t _ _ text => ?_, hdistinct⟩⟩
  · exact finds_before hadds hup ht (hfree t ht)
  · refine textOf_of_load fun name hname template hload => ?_
    rw [Settings.templates] at hload ⊢
    cases hroot : s.templatesDir with
    | none =>
      rw [hroot] at hload
      exact hload
    | some root =>
      rw [hroot] at hload
      have hrootUp : ".." ∉ root.names := hup root (by simp [hroot])
      exact load_directory.mpr (hadds.read_before
        (Path.up_not_mem_join hrootUp (isEntryName_of_names hname)) (load_directory.mp hload))

/-- A summary reports success when nothing has failed. -/
theorem isSuccess_iff_clean : x.summary.isSuccess = true ↔ Clean x := by
  simp [Summary.isSuccess, Summary.failures, Clean]

/-- When a dry run predicts a real run. A real run that has ended without failures is predicted by
the dry run of the same settings, schemas and start on the same disk if what its tasks make is
foreseen: the directories that it makes change neither what a task finds nor the text that it makes,
and no two files that the dry run lists have the same key. Nothing less will do where all stamps
have plain years. The tables have names without slashes. -/
theorem execute_forecast (hreal : s.dryRun = false) (hnames : PlainNames set) {summary : Summary}
    (h : (execute s start set d).ending = .finished summary) (hsuccess : summary.isSuccess = true) :
    (Foreseen s d (prepared s d) (Task.plan s set) → Predicts s start set d summary) ∧
      (PlainStamps s start set d → Predicts s start set d summary →
        Foreseen s d (prepared s d) (Task.plan s set)) := by
  obtain ⟨p, hreach, rfl⟩ := exists_reaches_of_finished h
  have hclean : Clean (state p) := isSuccess_iff_clean.mp hsuccess
  refine ⟨fun hforeseen => ?_, fun hstamps ⟨predicted, hending, hsuccess', hwritten, _⟩ => ?_⟩
  · obtain ⟨q, hq, hmatches⟩ := hforeseen.matches hnames hreal hreach hclean
    have hfinished : (execute (dry s) start set d).ending = .finished q.summary := hq.finished
    exact ⟨q.summary, hfinished, isSuccess_iff_clean.mpr hmatches.clean, hmatches.written,
      hmatches.skipped⟩
  · obtain ⟨q, hq, rfl⟩ := exists_reaches_of_finished hending
    have hclean' : Clean (state q) := isSuccess_iff_clean.mp hsuccess'
    exact (hreach.forecast hreal hnames hstamps hclean q hq hclean').2 hwritten.symm

/-- A run that finds one of its migrations, makes the other and the seeders, and patches the
application's seeder is predicted. -/
theorem execute_forecast_seeders :
    let s : Settings := {
      schema := ⟨"schema.json"⟩
      databaseDir := ⟨"db"⟩
      path := "v1"
      templatesDir := some ⟨"stubs"⟩
      seed := true
      seederClass := "Demo" }
    let start : Moment := ⟨2024, 2, 28, 23, 59, 59, by decide⟩
    let set : SchemaSet := { create := [⟨"users", [], false⟩], update := [⟨"users", [], false⟩] }
    let d : Disk := ⟨[(["stubs"], .directory),
      (["stubs", "migration.stub"], .file "\x7b\x7bclass\x7d\x7d".toUTF8),
      (["stubs", "schema-create.stub"], .file "".toUTF8),
      (["stubs", "schema-update.stub"], .file "".toUTF8),
      (["stubs", "seeder.stub"], .file "\x7b\x7bcontent\x7d\x7d".toUTF8),
      (["db"], .directory), (["db", "migrations"], .directory),
      (["db", "migrations", "v1"], .directory),
      (["db", "migrations", "v1", "2023_01_01_000000_create_users.php"], .file ⟨#[]⟩),
      (["db", "seeds"], .directory), (["db", "seeds", "v1"], .directory),
      (["db", "seeds", "DatabaseSeeder.php"], .file "run()\n    \x7b\n".toUTF8)], [], by decide⟩
    ∃ summary, (execute s start set d).ending = .finished summary ∧
      summary.migrations = 1 ∧ summary.seeders = 3 ∧ summary.skipped = 1 ∧
      Predicts s start set d summary ∧ Foreseen s d (prepared s d) (Task.plan s set) := by
  intro s start set d
  have hnames : PlainNames set := plainNames_of_pairs (by decide)
  have hstamps : PlainStamps s start set d := plainStamps_of_pairs (by decide)
  have hfinished : ((execute s start set d).ending.finishedWith fun summary =>
      summary.isSuccess && decide (summary.migrations = 1) && decide (summary.seeders = 3) &&
        decide (summary.skipped = 1)) = true := by decide +kernel
  obtain ⟨summary, hending, hcheck⟩ := Ending.exists_of_finishedWith hfinished
  simp only [Bool.and_eq_true, decide_eq_true_eq] at hcheck
  obtain ⟨⟨⟨hsuccess, hmigrations⟩, hseeders⟩, hskipped⟩ := hcheck
  have hpresent : ∀ dir ∈ directories s, d.hasDirectory dir = true := by decide +kernel
  have hforeseen : Foreseen s d (prepared s d) (Task.plan s set) :=
    (foreseen_iff_of_present hpresent _).mpr (by decide +kernel)
  obtain ⟨hpredicts, hback⟩ := execute_forecast rfl hnames hending hsuccess
  exact ⟨summary, hending, hmigrations, hseeders, hskipped, hpredicts hforeseen,
    hback hstamps (hpredicts hforeseen)⟩

/-- Not every real run is predicted: a table that is listed twice is found the second time, but a
dry run lists its migration twice. -/
theorem not_execute_forecast :
    ¬∀ (s : Settings) (start : Moment) (set : SchemaSet) (d : Disk) (summary : Summary),
      s.dryRun = false → (execute s start set d).ending = .finished summary →
        summary.isSuccess = true → ∃ predicted,
          (execute (dry s) start set d).ending = .finished predicted ∧
            predicted.written = summary.written ∧ predicted.skipped = summary.skipped := by
  intro h
  let s : Settings := { schema := ⟨"schema.json"⟩, templatesDir := some ⟨"stubs"⟩ }
  let start : Moment := ⟨2024, 3, 7, 9, 5, 42, by decide⟩
  let set : SchemaSet := { create := [⟨"users", [], false⟩, ⟨"users", [], false⟩] }
  let d : Disk := ⟨[(["stubs"], .directory),
    (["stubs", "migration.stub"], .file "\x7b\x7bclass\x7d\x7d".toUTF8),
    (["stubs", "schema-create.stub"], .file "".toUTF8)], [], by decide⟩
  have hreal : ((execute s start set d).ending.finishedWith fun summary =>
      summary.isSuccess && decide (summary.skipped = 1)) = true := by decide +kernel
  have hdry : ((execute (dry s) start set d).ending.finishedWith fun predicted =>
      decide (predicted.skipped = 0)) = true := by decide +kernel
  obtain ⟨summary, hending, hcheck⟩ := Ending.exists_of_finishedWith hreal
  rw [Bool.and_eq_true, decide_eq_true_eq] at hcheck
  obtain ⟨predicted, hpredicted, -, hskipped⟩ := h s start set d summary rfl hending hcheck.1
  rw [hpredicted, Ending.finishedWith, decide_eq_true_eq] at hdry
  omega

end SchemaForge.Run
