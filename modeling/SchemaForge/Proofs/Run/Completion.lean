import SchemaForge.Proofs.Run.Forecast

/-!
# Runs that come to their end

Two things can keep a run from the end of its plan: a directory that cannot be made, and the end of
the calendar. The second one needs a migration that is not found and has no stamp left
(`StampsInRange`), whatever else the disk holds. A run within the calendar performs its whole plan
once its directories are made (`StampsInRange.exists_reaches`), so it is refused or it finishes
(`StampsInRange.execute_cases`).

A dry run makes no directories and writes nothing, so it always finishes and gives the disk back as
it was, and it passes through no other disk (`execute_dry`).
-/

namespace SchemaForge.Run

variable {s : Settings} {start : Moment} {set : SchemaSet} {d d' : Disk} {t : Task}
  {done : List Task} {p : Progress}

/-- The calendar has every stamp that a run takes: there is one for each migration that the run
comes to and does not find. -/
def StampsInRange (s : Settings) (start : Moment) (set : SchemaSet) (d : Disk) : Prop :=
  ∀ done p a schema, Reaches s start set d done p →
    done ++ [.migration a schema] <+: Task.plan s set →
    findMigrations p.disk s.migrationsDir a schema.name = [] → (start.after? p.attempts).isSome

/-- The stamps are in range when the calendar goes on for as many seconds as there are pairs. -/
theorem stampsInRange_of_pairs (h : ∀ k < (pairs set).length, (start.after? k).isSome) :
    StampsInRange s start set d := by
  intro done p a schema hreach hplanned hnone
  apply h
  -- The run has come to fewer migrations than there are pairs: the next one is not among them.
  have hattempts := hreach.attempts_le
  have hmigrations : ((done ++ [Task.migration a schema]).filterMap migrationOf?).length ≤
      ((Task.plan s set).filterMap migrationOf?).length :=
    (hplanned.sublist.filterMap migrationOf?).length_le
  rw [migrations_plan, List.filterMap_append, List.length_append] at hmigrations
  have hlast : ([Task.migration a schema].filterMap migrationOf?).length = 1 := rfl
  omega

/-- Directories that cannot be made give the error for the one that cannot. -/
theorem directoryCreate_of_makeDirectories {dryRun : Bool} {dirs : List Path} {e : Error}
    (h : makeDirectories dryRun d dirs = (d', .error e)) :
    ∃ path reason, e = .directoryCreate path reason := by
  induction dirs generalizing d with
  | nil => cases h
  | cons dir rest ih =>
    rw [makeDirectories] at h
    split at h
    next d₁ hmade => exact ih h
    next d₁ e₁ hmade =>
      cases h
      rw [makeDirectory] at hmade
      split at hmade
      · cases hmade
      · split at hmade
        · cases hmade
        · cases hmade
          exact ⟨dir, _, rfl⟩

namespace StampsInRange

/-- Within the calendar, a run performs the next task of its plan. -/
theorem exists_perform (h : StampsInRange s start set d) (hreach : Reaches s start set d done p)
    (hplanned : done ++ [t] <+: Task.plan s set) : ∃ p', perform s start p t = .ok p' := by
  apply Run.exists_perform
  intro hfinds
  cases t with
  | announce message => cases hfinds
  | migration a schema =>
    have hnone : findMigrations p.disk s.migrationsDir a schema.name = [] := by
      simpa [finds] using hfinds
    obtain ⟨m, hm⟩ := Option.isSome_iff_exists.mp (h done p a schema hreach hplanned hnone)
    exact ⟨"", _, by rw [fileOf?, hm]; rfl⟩
  | seeder dir className content => exact ⟨"", _, rfl⟩
  | databaseSeeder => exact ⟨"", _, rfl⟩

/-- Within the calendar, a run whose directories are made reaches every part of its plan. -/
theorem exists_reaches (h : StampsInRange s start set d)
    (hmade : makeDirectories s.dryRun d (directories s) = (d', .ok ()))
    (hplanned : done <+: Task.plan s set) : ∃ p, Reaches s start set d done p := by
  -- The induction is on the tasks from their end, as in the induction on what a run reaches.
  induction done using List.reverseRecOn with
  | nil => exact ⟨begin s set d d', List.nil_prefix, d', hmade, rfl⟩
  | append_singleton done t ih =>
    obtain ⟨p, hreach⟩ := ih ((List.prefix_append done [t]).trans hplanned)
    obtain ⟨p', hperform⟩ := h.exists_perform hreach hplanned
    exact ⟨p', hreach.snoc hplanned hperform⟩

/-- Within the calendar, a run is refused because of a directory that cannot be made, or it has
reached the end of its plan and finishes. -/
theorem execute_cases (h : StampsInRange s start set d) :
    (∃ path reason, (execute s start set d).ending = .refused (.directoryCreate path reason) ∧
      (execute s start set d).disk = (makeDirectories s.dryRun d (directories s)).1) ∨
    ∃ p, Reaches s start set d (Task.plan s set) p ∧ (execute s start set d).disk = p.disk ∧
      (execute s start set d).ending = .finished p.summary := by
  rcases hmade : makeDirectories s.dryRun d (directories s) with ⟨d', ending⟩
  cases ending with
  | error e =>
    obtain ⟨path, reason, rfl⟩ := directoryCreate_of_makeDirectories hmade
    left
    refine ⟨path, reason, ?_, ?_⟩ <;> simp only [execute, hmade]
  | ok =>
    right
    obtain ⟨p, hreach⟩ := h.exists_reaches hmade List.prefix_rfl
    refine ⟨p, hreach, ?_, hreach.finished⟩
    obtain ⟨-, d₁, hmade₁, hfold⟩ := hreach
    rw [begin] at hfold
    simp only [execute, hmade₁, hfold]

end StampsInRange

/-! ## Dry runs -/

/-- Settings of a dry run are those of their own dry run. -/
theorem dry_eq (hdry : s.dryRun = true) : dry s = s := by
  rw [dry, ← hdry]

/-- A dry run passes through one disk only. -/
theorem Passes.disk_dry (hdry : s.dryRun = true) (h : Passes s start set d d') : d' = d := by
  cases h with
  | directories dirs hdirs => rw [hdry, makeDirectories_dry]
  | tasks done p hreach =>
    rw [← dry_eq hdry] at hreach
    exact hreach.disk_dry

/-- A dry run has no effect. Within the calendar it finishes, whatever its other settings and
whatever the disk holds, and the disk after it is the one before it, directories included; at no
moment in between is it another one. -/
theorem execute_dry (hdry : s.dryRun = true) (hstamps : StampsInRange s start set d) :
    (∃ summary, (execute s start set d).ending = .finished summary) ∧
      (execute s start set d).disk = d ∧ ∀ d', Passes s start set d d' → d' = d := by
  refine ⟨?_, ?_, fun d' hpasses => hpasses.disk_dry hdry⟩
  · rcases hstamps.execute_cases with ⟨path, reason, hending, -⟩ | ⟨p, -, -, hending⟩
    · -- A dry run makes no directories, so none of them can stop it.
      have hmade := makeDirectories_dry d (directories s)
      rw [← hdry] at hmade
      simp only [execute, hmade] at hending
      split at hending <;> cases hending
    · exact ⟨p.summary, hending⟩
  · exact (passes_execute s start set d).disk_dry hdry

/-- A dry run that makes seeders leaves a disk alone on which the application's seeder would be
patched, a file is in the place of the directory of migrations, and the templates are missing. -/
theorem execute_dry_blocked :
    let s : Settings := {
      schema := ⟨"schema.json"⟩
      databaseDir := ⟨"db"⟩
      templatesDir := some ⟨"stubs"⟩
      seed := true
      dryRun := true }
    let start : Moment := ⟨2024, 12, 31, 23, 59, 59, by decide⟩
    let set : SchemaSet := {
      create := [⟨"users", [], false⟩, ⟨"a/../b", [], false⟩]
      remove := [⟨"users", [], false⟩] }
    let d : Disk := ⟨[(["db"], .directory), (["db", "migrations"], .file "no directory".toUTF8),
      (["db", "seeds"], .directory),
      (["db", "seeds", "DatabaseSeeder.php"], .file "run()\n    \x7b\n".toUTF8)], [], by decide⟩
    s.dryRun = true ∧ StampsInRange s start set d ∧
      (∃ summary, (execute s start set d).ending = .finished summary) ∧
      (execute s start set d).disk = d ∧ ∀ d', Passes s start set d d' → d' = d := by
  intro s start set d
  have hstamps : StampsInRange s start set d := stampsInRange_of_pairs (by decide)
  exact ⟨rfl, hstamps, execute_dry rfl hstamps⟩

end SchemaForge.Run
