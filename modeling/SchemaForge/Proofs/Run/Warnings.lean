import SchemaForge.Proofs.Run.Problems
import SchemaForge.Proofs.Schema.Validation

/-!
# What the warnings of a run count

The warnings of a run are counted before its first task and no task changes them
(`Step.warnings_eq`), so they are the invalid schemas of the whole set
(`Reaches.warnings_eq`). The schemas that the tasks are about are those that are not dropped
(`pairs_eq`). A dropped schema has no turn in the run, and is still counted if it is invalid: the
warnings are the invalid schemas that the run settles, and those of the dropped schemas on top
(`execute_warnings`).
-/

namespace SchemaForge.Run

variable {s : Settings} {start : Moment} {set : SchemaSet} {d : Disk} {x y : State} {t : Task}
  {done : List Task} {p : Progress} {summary : Summary}

/-! ## Warnings along a run -/

/-- Making a seeder gives no warning. -/
theorem SeederStep.warnings_eq {dir : Path} {className content : String}
    (h : SeederStep s dir className content x y) : y.summary.warnings = x.summary.warnings := by
  cases h with
  | skipped hentry => rfl
  | written d text hnone hsave => rfl
  | failed e hnone hsave => rfl

/-- A step gives no warning. -/
theorem Step.warnings_eq (h : Step s start x t y) : y.summary.warnings = x.summary.warnings := by
  cases h with
  | seeder _ dir className content hseeder => exact hseeder.warnings_eq
  | databaseMade _ habsent hseeder => exact hseeder.warnings_eq
  | _ => rfl

/-- Whatever a run reaches, its warnings are those of the report that it begins with. -/
theorem Reaches.warnings_eq (h : Reaches s start set d done p) :
    p.summary.warnings = set.report.length := by
  refine Reaches.induction (motive := fun _ p => p.summary.warnings = set.report.length)
    (fun d' hmade => rfl) (fun done t p p' hreach hplanned hperform ih => ?_) h
  have hstep : p'.summary.warnings = p.summary.warnings := (perform_step hperform).warnings_eq
  rw [hstep, ih]

/-! ## Schemas with and without a turn -/

/-- The schemas of a set that a run passes over, with their actions, section by section. -/
def dropped (set : SchemaSet) : List (Action × Schema) := set.listed.filter fun pair => pair.2.drop

/-- How many of some schemas are invalid. -/
def invalidCount (listed : List (Action × Schema)) : ℕ := listed.countP fun pair => ¬pair.2.Valid

/-- The pairs that have a migration are those of the set that are not dropped. -/
theorem pairs_eq (set : SchemaSet) : pairs set = set.listed.filter fun pair => !pair.2.drop := by
  unfold pairs SchemaSet.listed SchemaSet.active
  rw [List.filter_flatMap]
  congr 1
  funext a
  rw [List.filter_map]
  rfl

/-- Every schema of a set has a turn or is dropped. -/
theorem invalidCount_listed (set : SchemaSet) :
    invalidCount set.listed = invalidCount (pairs set) + invalidCount (dropped set) := by
  rw [pairs_eq, Nat.add_comm]
  exact List.countP_eq_countP_filter_add set.listed _ _

/-- The report of a set has one entry for each invalid schema. -/
theorem length_report (set : SchemaSet) : set.report.length = invalidCount set.listed := by
  rw [set.report_eq, List.length_map, invalidCount, List.countP_eq_length_filter]

/-- None of some schemas is invalid exactly if all are valid. -/
theorem invalidCount_eq_zero_iff {listed : List (Action × Schema)} :
    invalidCount listed = 0 ↔ ∀ pair ∈ listed, pair.2.Valid := by
  unfold invalidCount
  rw [List.countP_eq_zero]
  simp only [decide_eq_true_eq, not_not]

/-! ## Warnings of a run -/

/-- A finished run has had a turn for each pair of an action and a schema that is not dropped, and
each of them is left alone, written or has a problem. Its warnings are the invalid schemas among
these pairs and the invalid schemas among the dropped ones, which have had no turn. So they are the
invalid schemas among the pairs exactly if every dropped schema is valid. -/
theorem execute_warnings (h : (execute s start set d).ending = .finished summary) :
    (∃ turns : List (Task × State), turns.map Prod.fst = Task.plan s set ∧
      turns.filterMap (fun turn => migrationOf? turn.1) = pairs set ∧
      Chronicle s start set d turns summary) ∧
    (∀ pair ∈ dropped set, pair ∉ pairs set) ∧
    summary.warnings = invalidCount (pairs set) + invalidCount (dropped set) ∧
    (summary.warnings = invalidCount (pairs set) ↔ ∀ pair ∈ dropped set, pair.2.Valid) := by
  obtain ⟨p, hreach, rfl⟩ := exists_reaches_of_finished h
  have hwarnings : p.summary.warnings = invalidCount (pairs set) + invalidCount (dropped set) := by
    rw [hreach.warnings_eq, length_report, invalidCount_listed]
  refine ⟨?_, fun pair hdropped hpair => ?_, hwarnings, ?_⟩
  · obtain ⟨turns, hplan, hchronicle⟩ := hreach.chronicle
    refine ⟨turns, hplan, ?_, hchronicle⟩
    rw [← migrations_plan s set, ← hplan, List.filterMap_map]
    rfl
  · rw [pairs_eq, List.mem_filter] at hpair
    have hdrop : pair.2.drop = true := (List.mem_filter.mp hdropped).2
    rw [hdrop] at hpair
    cases hpair.2
  · rw [← invalidCount_eq_zero_iff, hwarnings]
    omega

/-- A run that finds the migration of an invalid schema, fails at another one, writes that of a
valid schema and passes over three dropped ones, two of which are invalid. -/
theorem execute_warnings_mixed :
    let s : Settings := {
      schema := ⟨"schema.json"⟩
      databaseDir := ⟨"db"⟩
      path := "v1"
      templatesDir := some ⟨"stubs"⟩ }
    let start : Moment := ⟨2024, 2, 28, 23, 59, 59, by decide⟩
    let unnamed : Field := { name := "", type := .column "integer" }
    let set : SchemaSet := {
      create := [⟨"users", [unnamed], false⟩, ⟨"old", [unnamed], true⟩]
      createTrigger := [⟨"logs", [], true⟩]
      update := [⟨"a/b", [unnamed], false⟩, ⟨"posts", [], false⟩, ⟨" ", [], true⟩] }
    let d : Disk := ⟨[(["stubs"], .directory),
      (["stubs", "migration.stub"], .file "\x7b\x7bclass\x7d\x7d".toUTF8),
      (["stubs", "schema-update.stub"], .file "".toUTF8),
      (["db"], .directory), (["db", "migrations"], .directory),
      (["db", "migrations", "v1"], .directory),
      (["db", "migrations", "v1", "2023_01_01_000000_create_users.php"], .file "".toUTF8)],
      [], by decide⟩
    ∃ summary, (execute s start set d).ending = .finished summary ∧
      summary.skipped = 1 ∧ summary.failed.length = 1 ∧ summary.written.length = 1 ∧
      (∃ turns : List (Task × State),
        turns.filterMap (fun turn => migrationOf? turn.1) = pairs set ∧
        Chronicle s start set d turns summary) ∧
      summary.warnings = 2 + 2 := by
  intro s start unnamed set d
  have hfinished : ((execute s start set d).ending.finishedWith fun summary =>
      decide (summary.skipped = 1 ∧ summary.failed.length = 1 ∧ summary.written.length = 1)) =
        true := by decide +kernel
  obtain ⟨summary, hending, hcheck⟩ := Ending.exists_of_finishedWith hfinished
  obtain ⟨hskipped, hfailed, hwritten⟩ := of_decide_eq_true hcheck
  obtain ⟨⟨turns, -, hpairs, hchronicle⟩, -, hwarnings, -⟩ := execute_warnings hending
  have hsettled : invalidCount (pairs set) = 2 := by decide +kernel
  have hpassed : invalidCount (dropped set) = 2 := by decide +kernel
  rw [hsettled, hpassed] at hwarnings
  exact ⟨summary, hending, hskipped, hfailed, hwritten, ⟨turns, hpairs, hchronicle⟩, hwarnings⟩

/-- The warnings are not only the invalid schemas that the run generates, finds or fails to write: a
set whose one schema is dropped has nothing to generate, and its run has a warning. -/
theorem not_execute_warnings :
    ¬∀ (s : Settings) (start : Moment) (set : SchemaSet) (d : Disk) (summary : Summary),
      (execute s start set d).ending = .finished summary →
        summary.warnings = invalidCount (pairs set) := by
  intro h
  let s : Settings := { schema := ⟨"schema.json"⟩ }
  let start : Moment := ⟨2024, 3, 7, 9, 5, 42, by decide⟩
  let set : SchemaSet := {
    create := [⟨"old", [{ name := "", type := .column "integer" }], true⟩] }
  let d : Disk := .bare []
  have hfinished : ((execute s start set d).ending.finishedWith fun summary =>
      decide (summary.warnings = 1)) = true := by decide +kernel
  obtain ⟨summary, hending, hwarnings⟩ := Ending.exists_of_finishedWith hfinished
  have hnone : invalidCount (pairs set) = 0 := rfl
  rw [decide_eq_true_eq, h s start set d summary hending, hnone] at hwarnings
  cases hwarnings

end SchemaForge.Run
