import SchemaForge.Proofs.Run.Making

/-!
# Traces of real runs

The disk of a real run is the one on which its tasks began (`prepared`) with code written into it
(`Traces`). What is present on it was there at the start, or it is made for one of the tasks that
found nothing then, so a task whose key was not made finds what it would have found at the start
(`Traces.finds_eq`). The application's seeder comes once in a plan, and until its turn it is as it
was (`Traces.read_database`).
-/

namespace SchemaForge.Run

variable {s : Settings} {start : Moment} {set : SchemaSet} {d d' : Disk} {x y : State}
  {t : Task} {done : List Task} {p : Progress}

/-! ## Keys that are made -/

/-- The keys of the files that tasks make on a disk that they leave as it is. -/
def made (s : Settings) (d : Disk) (tasks : List Task) : List Key :=
  tasks.filterMap fun t => if finds s d t then none else keyOf? s d t

/-- A key that is made is that of a task that finds nothing. -/
theorem mem_made {tasks : List Task} {k : Key} :
    k ∈ made s d tasks ↔ ∃ t ∈ tasks, finds s d t = false ∧ keyOf? s d t = some k := by
  rw [made, List.mem_filterMap]
  refine exists_congr fun t => and_congr_right fun _ => ?_
  cases finds s d t <;> simp

/-- The keys that one more task makes. -/
theorem made_snoc (tasks : List Task) (t : Task) :
    made s d (tasks ++ [t]) =
      made s d tasks ++ (if finds s d t then none else keyOf? s d t).toList := by
  rw [made, List.filterMap_append]
  cases h : (if finds s d t then none else keyOf? s d t) <;> simp [made, h]

/-! ## What a run traces -/

/-- What a real run has done so far to the disk on which its tasks began. -/
structure Traces (s : Settings) (set : SchemaSet) (d : Disk) (done : List Task) (x : State) :
    Prop where
  /-- It has written code only. -/
  writes : WritesCode d x.disk
  /-- Nothing is gone. -/
  grows : d.Grows x.disk
  /-- What is present was so before, or it is made. -/
  present : ∀ t ∈ Task.plan s set, ∀ k, keyOf? s d t = some k → Present s x.disk k →
    Present s d k ∨ k ∈ made s d done
  /-- The application's seeder is as it was until its turn comes. -/
  database : .databaseSeeder ∉ done → ∀ content,
    d.find? (d.placeOf (databasePath s)) = some (.file content) →
      x.disk.find? (d.placeOf (databasePath s)) = some (.file content)

/-- No step of another task writes over the application's seeder. -/
theorem Change.find?_database (hnames : PlainNames set) (ht : t ∈ Task.plan s set)
    (h : Change s start x t y) (hother : t ≠ .databaseSeeder) {content : ByteArray}
    (hfile : x.disk.find? (x.disk.placeOf (databasePath s)) = some (.file content)) :
    y.disk.find? (x.disk.placeOf (databasePath s)) = some (.file content) := by
  cases h with
  | nothing hdisk hwritten => rw [hdisk, hfile]
  | migration a schema m text hmigration hnone hm hattempts hwrite hwritten =>
    subst hmigration
    rw [Disk.find?_write hwrite, if_neg, hfile]
    exact placeOf_seeder_ne_migration _ _ Seeder.databaseClass_plain
      (isEntryName_of_plan hnames ht m)
  | seeder dir className text hseeder hnone hwrite hwritten =>
    rw [Disk.find?_write hwrite, if_neg, hfile]
    intro hplace
    rw [hplace, Disk.find?_of_write_absent hnone hwrite] at hfile
    cases hfile
  | patch text patched hdatabase hread hpatch hwrite hwritten => exact absurd hdatabase hother

/-- A step leaves the traces of one more task. -/
theorem Traces.change (hnames : PlainNames set) (ht : t ∈ Task.plan s set)
    (hchange : Change s start x t y) (h : Traces s set d done x) :
    Traces s set d (done ++ [t]) y where
  writes := h.writes.change hnames ht hchange
  grows := h.grows.trans hchange.grows
  present u hu k hkey hk := by
    have hkeys := fun v => keyOf?_congr (s := s) (fun p => h.grows.placeOf p) v
    rcases hchange.present_cases hnames ht hu ((hkeys u).trans hkey) hk with hk | ⟨hfinds, hmade⟩
    · refine (h.present u hu k hkey hk).imp_right fun hmade => ?_
      rw [made_snoc]
      exact List.mem_append_left _ hmade
    · have hbefore := not_finds_of_grows h.grows hfinds
      exact .inr (mem_made.mpr ⟨t, by simp, hbefore, (hkeys t).symm.trans hmade⟩)
  database hdone content hcontent := by
    rw [List.mem_append, List.mem_singleton, not_or] at hdone
    have hfile := h.database hdone.1 content hcontent
    rw [← h.grows.placeOf] at hfile ⊢
    exact hchange.find?_database hnames ht (Ne.symm hdone.2) hfile

/-- Nothing is done when the tasks begin. -/
theorem Traces.begins (h : x.disk = d) : Traces s set d [] x := by
  rw [← h]
  exact ⟨.refl _, .refl _, fun t ht k hkey hk => .inl hk, fun _ content hfile => hfile⟩

/-! ## What a run finds -/

/-- A real run finds what was there when its tasks began, and what it has made. -/
theorem Traces.finds_eq (h : Traces s set d done x) (ht : t ∈ Task.plan s set)
    (hdir : d.hasDirectory s.migrationsDir = true)
    (hnew : ∀ k, keyOf? s d t = some k → k ∉ made s d done) :
    finds s x.disk t = finds s d t := by
  rw [Bool.eq_iff_iff]
  refine ⟨fun hfinds => ?_, finds_of_grows h.grows⟩
  have hold : ∀ k, keyOf? s d t = some k → Present s d k := by
    intro k hkey
    have hkey' := (keyOf?_congr (fun p => h.grows.placeOf p) t).trans hkey
    have hnow := present_of_finds hfinds hkey'
    exact (h.present t ht k hkey hnow).resolve_right (hnew k hkey)
  -- The directories are the same, so what is present can be reached as it can now.
  have hback : x.disk.KeepsDirectories d :=
    ⟨h.writes.workDir.symm, fun place hplace => (h.writes.directory place).mp hplace⟩
  cases t with
  | announce message => rfl
  | migration a schema =>
    rw [finds_migration, findMigrations_ne_nil, ← Disk.hasEntry_iff]
    exact ⟨Disk.hasEntry_of_hasDirectory hdir, hold _ rfl⟩
  | seeder dir className content =>
    refine hback.hasEntry (fun _ => ?_) hfinds
    rw [h.grows.placeOf]
    exact hold _ rfl
  | databaseSeeder =>
    refine hback.hasEntry (fun _ => ?_) hfinds
    rw [h.grows.placeOf]
    exact hold _ rfl

/-! ## The application's seeder -/

/-- A task is the one of the application's seeder. -/
def isDatabase : Task → Bool
  | .databaseSeeder => true
  | _ => false

/-- The application's seeder comes once in a plan. -/
theorem databaseSeeder_not_mem (h : done ++ [.databaseSeeder] <+: Task.plan s set) :
    .databaseSeeder ∉ done := by
  -- The tasks of an action never have it, and those of the seeders end with it.
  have hof : ∀ a, (Task.ofAction s set a).countP isDatabase = 0 := by
    intro a
    rw [List.countP_eq_zero]
    intro t ht
    obtain ⟨schema, -, htask⟩ := List.mem_flatMap.mp ht
    simp only [Task.ofSchema, List.mem_append, List.mem_cons, List.not_mem_nil, or_false] at htask
    rcases htask with (rfl | rfl) | htask
    · exact Bool.false_ne_true
    · exact Bool.false_ne_true
    · split at htask
      · rw [List.mem_singleton.mp htask]
        exact Bool.false_ne_true
      · cases htask
  have hseeders : (if s.seed then Task.ofSeeders s set else []).countP isDatabase ≤ 1 := by
    split <;> simp [Task.ofSeeders, isDatabase]
  have hplan : (Task.plan s set).countP isDatabase ≤ 1 := by
    simpa [Task.plan, List.countP_append, List.countP_flatMap, hof] using hseeders
  have hcount := (h.sublist.countP_le (p := isDatabase)).trans hplan
  have hlast : [Task.databaseSeeder].countP isDatabase = 1 := rfl
  intro hmem
  have hbefore : 0 < done.countP isDatabase := List.countP_pos_iff.mpr ⟨_, hmem, rfl⟩
  rw [List.countP_append] at hcount
  omega

/-- The application's seeder that a real run can read before its turn was the same at the start, if
there was one. -/
theorem Traces.read_database (h : Traces s set d' done x) (hadds : d.AddsDirectories d')
    (hdone : .databaseSeeder ∉ done) (hentry : d.hasEntry (databasePath s) = true) {text : String}
    (hread : x.disk.read (databasePath s) = .ok text) :
    d.read (databasePath s) = .ok text := by
  refine (hadds.grows.trans h.grows).read_before (fun content hfile => ?_) hentry hread
  have hbegins := hadds.find? _ _ hfile
  rw [← hadds.grows.placeOf] at hbegins ⊢
  exact h.database hdone content hbegins

/-! ## The start of the tasks -/

/-- The disk on which the tasks of a real run begin. -/
def prepared (s : Settings) (d : Disk) : Disk := (makeDirectories false d (directories s)).1

/-- The directories of a real run are made when its tasks begin. -/
theorem Reaches.hasDirectory_prepared (hreal : s.dryRun = false)
    (h : Reaches s start set d done p) : (prepared s d).hasDirectory s.migrationsDir = true := by
  obtain ⟨d', hmade, -⟩ := h.performed
  rw [hreal] at hmade
  rw [prepared, hmade]
  exact hasDirectory_makeDirectories hmade (List.mem_cons_self ..) (migrationsDir_ne_empty s)

/-- The disk on which the tasks of a real run begin has directories added. -/
theorem addsDirectories_prepared (s : Settings) (d : Disk) : d.AddsDirectories (prepared s d) :=
  addsDirectories_makeDirectories false d (directories s)

/-- Whatever a real run reaches, it leaves traces. -/
theorem Reaches.traces (hreal : s.dryRun = false) (hnames : PlainNames set)
    (h : Reaches s start set d done p) : Traces s set (prepared s d) done (state p) := by
  refine Reaches.induction (motive := fun done p => Traces s set (prepared s d) done (state p))
    (fun d' hmade => .begins ?_) (fun done t p p' hreach hplanned hperform ih => ?_) h
  · rw [prepared, ← hreal, hmade]
    rfl
  · exact ih.change hnames (hplanned.subset (by simp)) ((perform_step hperform).change hreal)

/-- The disk grows as long as a real run goes on. -/
theorem Reaches.grows (hreal : s.dryRun = false) (hnames : PlainNames set)
    (h : Reaches s start set d done p) : d.Grows p.disk :=
  (addsDirectories_prepared s d).grows.trans (h.traces hreal hnames).grows

/-- Paths lead to the same locations as long as a real run goes on. -/
theorem Reaches.placeOf (hreal : s.dryRun = false) (hnames : PlainNames set)
    (h : Reaches s start set d done p) (path : Path) : p.disk.placeOf path = d.placeOf path :=
  (h.grows hreal hnames).placeOf path

/-- A real run with plain stamps that has not failed has made everything that it came to. -/
theorem Reaches.present (hreal : s.dryRun = false) (hnames : PlainNames set)
    (hstamps : PlainStamps s start set d) (h : Reaches s start set d done p) :
    Clean (state p) → ∀ t ∈ done, ∀ k, keyOf? s d t = some k → Present s p.disk k := by
  refine Reaches.induction (motive := fun done p => Clean (state p) →
    ∀ t ∈ done, ∀ k, keyOf? s d t = some k → Present s p.disk k)
    (fun d' hmade _ t ht => absurd ht List.not_mem_nil)
    (fun done t p p' hreach hplanned hperform ih hclean u hu k hkey => ?_) h
  have hstep := perform_step hperform
  -- What earlier tasks came to stays there; the last one has just made its own.
  rcases List.mem_append.mp hu with hu | hu
  · exact present_of_grows (hstep.change hreal).grows (ih (hstep.clean hclean) u hu k hkey)
  · obtain rfl := List.mem_singleton.mp hu
    exact hstep.present hreal hnames (hplanned.subset (by simp))
      (fun m hlt hm => hstamps _ _ _ m (hreach.snoc hplanned hperform) hlt hm) hclean
      ((keyOf?_congr (hreach.placeOf hreal hnames) u).trans hkey)

end SchemaForge.Run
