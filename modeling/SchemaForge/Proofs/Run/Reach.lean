import SchemaForge.Proofs.Calendar.Moment
import SchemaForge.Proofs.Migration.Name
import SchemaForge.Proofs.Run.Step
import SchemaForge.Proofs.Storage.Change

/-!
# What a run reaches

A run reaches a progress when it has performed the first tasks of its plan without a stop
(`Reaches`), and passes through the disks of these and through those of the making of its
directories (`Passes`). What holds at the start of the tasks and is preserved by each step holds of
everything that a run reaches (`Reaches.induction`). `execute_cases` says that a run ends where it
got to: after a directory that cannot be made, after its whole plan, or at the end of the calendar,
which a run with plain years does not come to.
-/

namespace SchemaForge.Run

variable {s : Settings} {start : Moment} {set : SchemaSet} {d : Disk}

/-- The progress with which the tasks of a run begin on a disk that has its directories. -/
def begin (s : Settings) (set : SchemaSet) (d d' : Disk) : Progress :=
  { opening s set d with disk := d' }

/-- A run reaches a progress by some tasks: they come first in its plan, its directories are made,
and none of the tasks stopped it. -/
structure Reaches (s : Settings) (start : Moment) (set : SchemaSet) (d : Disk) (done : List Task)
    (p : Progress) : Prop where
  /-- The tasks come first in the plan. -/
  planned : done <+: Task.plan s set
  /-- The directories are made and the tasks are performed. -/
  performed : ∃ d', makeDirectories s.dryRun d (directories s) = (d', .ok ()) ∧
    done.foldlM (perform s start) (begin s set d d') = .ok p

/-- A disk that a run passes through. -/
inductive Passes (s : Settings) (start : Moment) (set : SchemaSet) (d : Disk) : Disk → Prop where
  /-- The run is making its directories. -/
  | directories (dirs : List Path) (h : dirs <+: Run.directories s) :
      Passes s start set d (makeDirectories s.dryRun d dirs).1
  /-- The run is performing its tasks. -/
  | tasks (done : List Task) (p : Progress) (h : Reaches s start set d done p) :
      Passes s start set d p.disk

/-- No table that a run generates for has a slash in its name. -/
def PlainNames (set : SchemaSet) : Prop := ∀ a, ∀ schema ∈ set.active a, '/' ∉ schema.name.toList

/-- Every stamp that a run takes has a year of four digits. -/
def PlainStamps (s : Settings) (start : Moment) (set : SchemaSet) (d : Disk) : Prop :=
  ∀ done p k m, Reaches s start set d done p → k < p.attempts → start.after? k = some m →
    m.HasPlainYear

/-! ## Runs as chains of steps -/

/-- A run that has reached a progress performs the next task of its plan. -/
theorem Reaches.snoc {done : List Task} {t : Task} {p p' : Progress}
    (h : Reaches s start set d done p) (hplanned : done ++ [t] <+: Task.plan s set)
    (hperform : perform s start p t = .ok p') : Reaches s start set d (done ++ [t]) p' := by
  obtain ⟨d', hmade, hfold⟩ := h.performed
  refine ⟨hplanned, d', hmade, ?_⟩
  rw [List.foldlM_append, hfold]
  show [t].foldlM (perform s start) p = .ok p'
  rw [List.foldlM_cons, hperform]
  rfl

/-- A run reaches by its first tasks what it has come from by the rest. -/
theorem Reaches.split {done rest : List Task} {p : Progress}
    (h : Reaches s start set d (done ++ rest) p) :
    ∃ q, Reaches s start set d done q ∧ rest.foldlM (perform s start) q = .ok p := by
  obtain ⟨hplanned, d', hmade, hfold⟩ := h
  rw [List.foldlM_append] at hfold
  match hfirst : done.foldlM (perform s start) (begin s set d d') with
  | .error q => rw [hfirst] at hfold; cases hfold
  | .ok q =>
    rw [hfirst] at hfold
    exact ⟨q, ⟨(List.prefix_append done rest).trans hplanned, d', hmade, hfirst⟩, hfold⟩

/-- What a run reaches by a task it reaches from the tasks before. -/
theorem Reaches.exists_before {done : List Task} {t : Task} {p : Progress}
    (h : Reaches s start set d (done ++ [t]) p) :
    ∃ q, Reaches s start set d done q ∧ perform s start q t = .ok p := by
  obtain ⟨q, hq, hlast⟩ := h.split
  exact ⟨q, hq, by simpa only [List.foldlM_cons, List.foldlM_nil, bind_pure] using hlast⟩

/-- What holds when the tasks begin and is preserved by each task holds of all that is reached. -/
theorem Reaches.induction {motive : List Task → Progress → Prop}
    (begins : ∀ d', makeDirectories s.dryRun d (directories s) = (d', .ok ()) →
      motive [] (begin s set d d'))
    (performs : ∀ done t p p', Reaches s start set d done p → done ++ [t] <+: Task.plan s set →
      perform s start p t = .ok p' → motive done p → motive (done ++ [t]) p')
    {done : List Task} {p : Progress} (h : Reaches s start set d done p) : motive done p := by
  -- The induction is on the tasks from their end: the last one is performed where the others led.
  induction done using List.reverseRecOn generalizing p with
  | nil =>
    obtain ⟨-, d', hmade, hfold⟩ := h
    cases hfold
    exact begins d' hmade
  | append_singleton done t ih =>
    obtain ⟨q, hq, hperform⟩ := h.exists_before
    exact performs done t q p hq h.planned hperform (ih hq)

/-- Several tasks that stop are stopped by one of them, which leaves the progress before it. -/
theorem foldlM_error {tasks : List Task} {p p' : Progress}
    (h : tasks.foldlM (perform s start) p = .error p') :
    ∃ done, done <+: tasks ∧ done.foldlM (perform s start) p = .ok p' ∧
      start.after? p'.attempts = none := by
  induction tasks generalizing p with
  | nil => cases h
  | cons t rest ih =>
    rw [List.foldlM_cons] at h
    match hperform : perform s start p t with
    | .error q =>
      rw [hperform] at h
      obtain ⟨rfl, hnone⟩ := perform_error hperform
      cases h
      exact ⟨[], List.nil_prefix, rfl, hnone⟩
    | .ok q =>
      rw [hperform] at h
      obtain ⟨done, hdone, hfold, hnone⟩ := ih h
      refine ⟨t :: done, List.cons_prefix_cons.mpr ⟨rfl, hdone⟩, ?_, hnone⟩
      rw [List.foldlM_cons, hperform]
      exact hfold

/-- A run ends where it got to. -/
theorem execute_cases (s : Settings) (start : Moment) (set : SchemaSet) (d : Disk) :
    (∃ e, (execute s start set d).disk = (makeDirectories s.dryRun d (directories s)).1 ∧
      (execute s start set d).ending = .refused e) ∨
    (∃ p, Reaches s start set d (Task.plan s set) p ∧ (execute s start set d).disk = p.disk ∧
      (execute s start set d).ending = .finished p.summary) ∨
    ∃ done p, Reaches s start set d done p ∧ (execute s start set d).disk = p.disk ∧
      (execute s start set d).ending = .outOfCalendar ∧ start.after? p.attempts = none := by
  match hmade : makeDirectories s.dryRun d (directories s) with
  | (d', .error e) =>
    have hexecute : execute s start set d = ⟨d', (opening s set d).events, .refused e⟩ := by
      simp only [execute, hmade]
    rw [hexecute]
    exact .inl ⟨e, rfl, rfl⟩
  | (d', .ok ()) =>
    right
    cases hfold : (Task.plan s set).foldlM (perform s start) (begin s set d d') with
    | ok p =>
      have hexecute : execute s start set d =
          ⟨p.disk, (p.tell (.info "Finished.")).events, .finished p.summary⟩ := by
        rw [begin] at hfold
        simp only [execute, hmade, hfold]
      rw [hexecute]
      exact .inl ⟨p, ⟨List.prefix_rfl, d', hmade, hfold⟩, rfl, rfl⟩
    | error p =>
      have hexecute : execute s start set d = ⟨p.disk, p.events, .outOfCalendar⟩ := by
        rw [begin] at hfold
        simp only [execute, hmade, hfold]
      rw [hexecute]
      obtain ⟨done, hdone, hreach, hnone⟩ := foldlM_error hfold
      exact .inr ⟨done, p, ⟨hdone, d', hmade, hreach⟩, rfl, rfl, hnone⟩

/-- A run that has finished has reached the end of its plan. -/
theorem exists_reaches_of_finished {summary : Summary}
    (h : (execute s start set d).ending = .finished summary) :
    ∃ p, Reaches s start set d (Task.plan s set) p ∧ p.summary = summary := by
  rcases execute_cases s start set d with ⟨e, -, hending⟩ | ⟨p, hreach, -, hending⟩ |
    ⟨done, p, -, -, hending, -⟩
  · rw [hending] at h
    cases h
  · rw [hending] at h
    exact ⟨p, hreach, by cases h; rfl⟩
  · rw [hending] at h
    cases h

/-- A run that has reached the end of its plan finishes. -/
theorem Reaches.finished {p : Progress} (h : Reaches s start set d (Task.plan s set) p) :
    (execute s start set d).ending = .finished p.summary := by
  obtain ⟨-, d', hmade, hfold⟩ := h
  rw [begin] at hfold
  simp only [execute, hmade, hfold]

/-- The disk at the end of a run is the one that it has reached. -/
theorem Reaches.disk_execute {p : Progress} (h : Reaches s start set d (Task.plan s set) p) :
    (execute s start set d).disk = p.disk := by
  obtain ⟨-, d', hmade, hfold⟩ := h
  rw [begin] at hfold
  simp only [execute, hmade, hfold]

/-- A run has finished with a summary that passes a check. -/
def Ending.finishedWith (check : Summary → Bool) : Ending → Bool
  | .finished summary => check summary
  | .refused _ => false
  | .outOfCalendar => false

/-- A run that has finished with a summary that passes a check has finished. -/
theorem Ending.exists_of_finishedWith {check : Summary → Bool} {e : Ending}
    (h : e.finishedWith check = true) : ∃ summary, e = .finished summary ∧ check summary = true := by
  cases e with
  | finished summary => exact ⟨summary, rfl, h⟩
  | refused error => cases h
  | outOfCalendar => cases h

/-- A run passes through the disk that it leaves. -/
theorem passes_execute (s : Settings) (start : Moment) (set : SchemaSet) (d : Disk) :
    Passes s start set d (execute s start set d).disk := by
  rcases execute_cases s start set d with ⟨e, hdisk, -⟩ | ⟨p, hreach, hdisk, -⟩ |
    ⟨done, p, hreach, hdisk, -⟩
  · rw [hdisk]
    exact .directories _ List.prefix_rfl
  · rw [hdisk]
    exact .tasks _ p hreach
  · rw [hdisk]
    exact .tasks done p hreach

/-- A run with plain years does not come to the end of the calendar. -/
theorem after?_ne_none (hstamps : PlainStamps s start set d) {done : List Task} {p : Progress}
    (h : Reaches s start set d done p) : start.after? p.attempts ≠ none := by
  intro hnone
  -- Each stamp exists because the one before it has a year far from the end of the calendar.
  have hall : ∀ k ≤ p.attempts, (start.after? k).isSome := by
    intro k
    induction k with
    | zero => exact fun _ => rfl
    | succ k ih =>
      intro hk
      obtain ⟨m, hm⟩ := Option.isSome_iff_exists.mp (ih (by omega))
      have hyear := (hstamps done p k m h (by omega) hm).2
      rw [Moment.after?, hm]
      exact Moment.isSome_next? (by omega)
  have hsome := hall p.attempts le_rfl
  rw [hnone] at hsome
  cases hsome

/-! ## What a plan holds -/

/-- A planned migration is one of a schema that is not dropped. -/
theorem mem_active_of_plan {a : Action} {schema : Schema}
    (h : Task.migration a schema ∈ Task.plan s set) : schema ∈ set.active a := by
  have hof : ∀ b, Task.migration a schema ∈ Task.ofAction s set b → schema ∈ set.active a := by
    intro b hb
    obtain ⟨other, hother, htask⟩ := List.mem_flatMap.mp hb
    simp only [Task.ofSchema, List.mem_append, List.mem_cons, List.not_mem_nil] at htask
    rcases htask with (htask | htask | htask) | htask
    · cases htask
    · cases htask
      exact hother
    · cases htask
    · split at htask <;> simp at htask
  simp only [Task.plan, List.mem_append, List.mem_flatMap] at h
  rcases h with (h | h) | ⟨b, -, h⟩
  · exact hof .create h
  · split at h
    · simp [Task.ofSeeders] at h
    · cases h
  · exact hof b h

/-- The action and schema of a migration. -/
def migrationOf? : Task → Option (Action × Schema)
  | .migration a schema => some (a, schema)
  | _ => none

/-- The pairs of an action and a schema that a run generates migrations for, in order. -/
def pairs (set : SchemaSet) : List (Action × Schema) :=
  Action.all.flatMap fun a => (set.active a).map fun schema => (a, schema)

/-- The migrations of a plan are those of the pairs. -/
theorem migrations_plan (s : Settings) (set : SchemaSet) :
    (Task.plan s set).filterMap migrationOf? = pairs set := by
  have hof : ∀ a, (Task.ofAction s set a).filterMap migrationOf? =
      (set.active a).map fun schema => (a, schema) := by
    intro a
    rw [Task.ofAction, List.filterMap_flatMap, List.map_eq_flatMap]
    congr 1
    funext schema
    rw [Task.ofSchema, List.filterMap_append]
    split <;> rfl
  have hseeders : (if s.seed then Task.ofSeeders s set else []).filterMap migrationOf? = [] := by
    split <;> rfl
  rw [Task.plan, List.filterMap_append, List.filterMap_append, hof, hseeders,
    List.filterMap_flatMap, List.append_nil]
  simp only [hof]
  rfl

/-- The plan has a migration for each pair. -/
theorem mem_plan_of_pair {a : Action} {schema : Schema} (h : (a, schema) ∈ pairs set) :
    .migration a schema ∈ Task.plan s set := by
  rw [← migrations_plan s set] at h
  obtain ⟨t, ht, hpair⟩ := List.mem_filterMap.mp h
  cases t with
  | migration b schema' =>
    cases hpair
    exact ht
  | _ => cases hpair

/-- The directories that are made for the migrations are named. -/
theorem migrationsDir_ne_empty (s : Settings) : ¬s.migrationsDir.text.isEmpty := by
  have hbase : ¬(s.databaseDir.join "migrations").text.isEmpty :=
    Path.join_ne_empty _ _ (.inr (by decide))
  exact Path.join_ne_empty _ _ (.inl hbase)

/-! ## Stamps -/

/-- A step attempts a migration at most, and only for one. -/
theorem Step.attempts_le {x y : State} {t : Task} (h : Step s start x t y) :
    y.attempts ≤ x.attempts + (migrationOf? t).toList.length := by
  cases h with
  | migrationWritten a schema m d text h hm hsave => exact le_rfl
  | migrationFailed a schema m e h hm hsave => exact le_rfl
  | seeder _ dir className content hseeder => cases hseeder <;> simp
  | databaseMade _ habsent hseeder => cases hseeder <;> simp
  | _ => simp

/-- A run attempts at most the migrations that it has come to. -/
theorem Reaches.attempts_le {done : List Task} {p : Progress} (h : Reaches s start set d done p) :
    p.attempts ≤ (done.filterMap migrationOf?).length := by
  refine Reaches.induction
    (motive := fun done p => p.attempts ≤ (done.filterMap migrationOf?).length)
    (fun d' hmade => Nat.zero_le _) (fun done t p p' hreach hplanned hperform ih => ?_) h
  have hstep : p'.attempts ≤ p.attempts + (migrationOf? t).toList.length :=
    (perform_step hperform).attempts_le
  have hlast : ([t].filterMap migrationOf?).length = (migrationOf? t).toList.length := by
    cases hpair : migrationOf? t <;> simp [hpair]
  rw [List.filterMap_append, List.length_append, hlast]
  omega

/-- Names are plain when those of all pairs are. -/
theorem plainNames_of_pairs (h : ∀ pair ∈ pairs set, '/' ∉ pair.2.name.toList) :
    PlainNames set := by
  intro a schema hschema
  have ha : a ∈ Action.all := by cases a <;> decide
  exact h (a, schema) (List.mem_flatMap.mpr ⟨a, ha, List.mem_map.mpr ⟨schema, hschema, rfl⟩⟩)

/-- Stamps are plain when those for all pairs are. -/
theorem plainStamps_of_pairs
    (h : ∀ k < (pairs set).length, ∀ m ∈ start.after? k, m.HasPlainYear) :
    PlainStamps s start set d := by
  intro done p k m hreach hk hm
  have hdone : (done.filterMap migrationOf?).length ≤ (pairs set).length := by
    rw [← migrations_plan s set]
    exact (hreach.planned.sublist.filterMap migrationOf?).length_le
  have hattempts := hreach.attempts_le
  exact h k (by omega) m hm

/-! ## Making the directories -/

/-- Making the directories of a run adds directories, also if it fails. -/
theorem addsDirectories_makeDirectories (dryRun : Bool) (d : Disk) (dirs : List Path) :
    d.AddsDirectories (makeDirectories dryRun d dirs).1 := by
  have hone : ∀ (d : Disk) (dir : Path), d.AddsDirectories (makeDirectory dryRun d dir).1 := by
    intro d dir
    have hdirs := d.addsDirectories_makeDirs dir
    rw [makeDirectory]
    split
    · exact .refl d
    · split <;> simp_all
  induction dirs generalizing d with
  | nil => exact .refl d
  | cons dir rest ih =>
    have hdir := hone d dir
    rw [makeDirectories]
    split
    next d' hmade =>
      rw [hmade] at hdir
      exact hdir.trans (ih d')
    next d' e hmade =>
      rw [hmade] at hdir
      exact hdir

/-- The directories of a real run are there when they are made. -/
theorem hasDirectory_makeDirectories {dirs : List Path} {d' : Disk}
    (h : makeDirectories false d dirs = (d', .ok ())) {dir : Path} (hdir : dir ∈ dirs)
    (hne : ¬dir.text.isEmpty) : d'.hasDirectory dir = true := by
  induction dirs generalizing d with
  | nil => cases hdir
  | cons first rest ih =>
    rw [makeDirectories] at h
    split at h
    next d₁ hmade =>
      rcases List.mem_cons.mp hdir with rfl | hdir
      · have hthere : d₁.hasDirectory dir = true := by
          rw [makeDirectory] at hmade
          split at hmade
          next hpresent =>
            cases hmade
            simpa using hpresent
          next =>
            split at hmade
            next d₂ hdirs =>
              cases hmade
              have hmake := Disk.hasDirectory_makeDirs (d := d) hne (by rw [hdirs])
              rwa [hdirs] at hmake
            next => cases hmade
        have hadds := addsDirectories_makeDirectories false d₁ rest
        rw [h] at hadds
        exact hadds.keeps.hasDirectory hthere
      · exact ih h hdir
    next => cases h

end SchemaForge.Run
