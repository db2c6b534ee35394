import Mathlib.Data.Finset.Card
import Mathlib.Tactic.Common
import SchemaForge.Schema.Validation

/-!
# What validation finds

A schema has no errors exactly if it meets the conditions of `Schema.Valid`: its name and those of
its fields are not blank, no two fields share a name, indexes have arguments, and functions and
triggers have both of their statements (`Schema.errors_eq_nil_iff`). The errors come field by field:
what is wrong with a field depends on it and on the names before it only (`fieldErrors_eq_flatMap`),
and a name is reported once for each time that it is repeated (`countP_fieldErrors`). The report of
a set lists its invalid schemas and no others (`SchemaSet.report_eq`).
-/

namespace SchemaForge

variable {schema : String} {seen : List String} {f : Field} {fields : List Field} {s : Schema}
  {set : SchemaSet} {a : Action}

/-! ## Names -/

/-- A name that is not blank is not empty. -/
theorem Text.ne_empty_of_not_isBlank {text : String} (h : ¬IsBlank text) : text ≠ "" := by
  rintro rfl
  exact h fun c hc => absurd hc (by simp)

/-! ## Conditions -/

/-- What is asked of a field by itself. -/
structure Field.Sound (f : Field) : Prop where
  /-- Its name is not blank. -/
  named : ¬Text.IsBlank f.name
  /-- An index has at least one argument. -/
  indexed : f.type.isIndex = true → f.arguments ≠ []
  /-- A function or trigger has both of its statements. -/
  stated : f.type.isRoutine = true → f.sqlUp ≠ none ∧ f.sqlDown ≠ none

/-- What is asked of a schema. -/
structure Schema.Valid (s : Schema) : Prop where
  /-- Its name is not blank. -/
  named : ¬Text.IsBlank s.name
  /-- Its fields are sound. -/
  sound : ∀ f ∈ s.fields, f.Sound
  /-- No two of its fields share a name. -/
  distinct : (s.fields.map Field.name).Nodup

/-- A field has no problem if it passes each of the checks. -/
theorem Field.problem?_eq_none (hname : ¬Text.IsBlank f.name)
    (hindex : ¬(f.type.isIndex ∧ f.arguments = []))
    (hsql : ¬(f.type.isRoutine ∧ (f.sqlUp = none ∨ f.sqlDown = none))) : f.problem? = none := by
  rw [problem?, if_neg hname, if_neg hindex, if_neg hsql]

/-- The fields without a problem are the sound ones. -/
theorem Field.problem?_eq_none_iff : f.problem? = none ↔ f.Sound := by
  constructor
  · intro h
    unfold problem? at h
    split_ifs at h with hname hindex hsql
    exact ⟨hname, fun htype hnone => hindex ⟨htype, hnone⟩,
      fun htype => not_or.mp fun hnone => hsql ⟨htype, hnone⟩⟩
  · rintro ⟨hname, hindexed, hstated⟩
    exact Field.problem?_eq_none hname (fun h => hindexed h.1 h.2)
      fun h => not_or.mpr (hstated h.1) h.2

/-! ## Errors in the order of the fields -/

/-- What is wrong with a field that comes after fields of the given names: its own problem, and then
that its name is repeated. An empty name is not counted as repeated. -/
def errorsAfter (schema : String) (seen : List String) (f : Field) : List Error :=
  (f.problem?.toList.map fun p => Error.fieldValidation schema f.name p.message) ++
    if f.name ≠ "" ∧ f.name ∈ seen then [.duplicateField schema f.name] else []

/-- The errors of the first field come before those of the others, which come after its name. -/
theorem fieldErrors_cons (schema : String) (seen : List String) (f : Field) (rest : List Field) :
    fieldErrors schema seen (f :: rest) =
      errorsAfter schema seen f ++ fieldErrors schema (f.name :: seen) rest := rfl

/-- Of the names before a field it matters only which they are. -/
theorem errorsAfter_congr {seen' : List String} (h : ∀ name, name ∈ seen ↔ name ∈ seen')
    (schema : String) (f : Field) : errorsAfter schema seen f = errorsAfter schema seen' f := by
  simp only [errorsAfter, h f.name]

/-- Nothing is wrong with a field if it is sound and its name is new. -/
theorem errorsAfter_eq_nil_iff :
    errorsAfter schema seen f = [] ↔ f.Sound ∧ f.name ∉ seen := by
  unfold errorsAfter
  rw [List.append_eq_nil_iff, List.map_eq_nil_iff, Option.toList_eq_nil_iff,
    Field.problem?_eq_none_iff]
  refine and_congr_right fun hsound => ?_
  have hname := Text.ne_empty_of_not_isBlank hsound.named
  simp [hname]

/-- The errors of fields come field by field, each after the names of the fields before it. -/
theorem fieldErrors_eq_flatMap (schema : String) (seen : List String) (fields : List Field) :
    fieldErrors schema seen fields = fields.zipIdx.flatMap fun (f, i) =>
      errorsAfter schema ((fields.take i).map Field.name ++ seen) f := by
  induction fields generalizing seen with
  | nil => rfl
  | cons f rest ih =>
    -- The name of the first field is in front of the others by position, and seen by the loop.
    have hmoved : ∀ i g, errorsAfter schema ((rest.take i).map Field.name ++ f.name :: seen) g =
        errorsAfter schema (((f :: rest).take (i + 1)).map Field.name ++ seen) g := by
      intro i g
      refine errorsAfter_congr (fun name => ?_) schema g
      simp only [List.take_succ_cons, List.map_cons, List.mem_append, List.mem_cons]
      tauto
    rw [fieldErrors_cons, ih, List.zipIdx_cons, List.zipIdx_succ, List.flatMap_cons,
      List.flatMap_map]
    simp only [hmoved]
    rfl

/-- Fields have no errors exactly if all of them are sound and have new names, different from each
other. -/
theorem fieldErrors_eq_nil_iff : fieldErrors schema seen fields = [] ↔
    (∀ f ∈ fields, f.Sound ∧ f.name ∉ seen) ∧ (fields.map Field.name).Nodup := by
  induction fields generalizing seen with
  | nil => simp [fieldErrors]
  | cons f rest ih =>
    rw [fieldErrors_cons, List.append_eq_nil_iff, errorsAfter_eq_nil_iff, ih, List.map_cons,
      List.nodup_cons, List.forall_mem_cons]
    constructor
    · rintro ⟨hfirst, hrest, hdistinct⟩
      refine ⟨⟨hfirst, fun g hg => ⟨(hrest g hg).1, ?_⟩⟩, ?_, hdistinct⟩
      · exact fun hseen => (hrest g hg).2 (List.mem_cons_of_mem _ hseen)
      · intro hagain
        obtain ⟨g, hg, hname⟩ := List.mem_map.mp hagain
        exact (hrest g hg).2 (hname ▸ List.mem_cons_self)
    · rintro ⟨⟨hfirst, hrest⟩, hother, hdistinct⟩
      refine ⟨hfirst, fun g hg => ⟨(hrest g hg).1, fun hseen => ?_⟩, hdistinct⟩
      rcases List.mem_cons.mp hseen with hname | hseen
      · exact hother (hname ▸ List.mem_map_of_mem hg)
      · exact (hrest g hg).2 hseen

/-! ## Schemas -/

/-- A schema has no errors exactly if it is valid. -/
theorem Schema.errors_eq_nil_iff : s.errors = [] ↔ s.Valid := by
  unfold errors
  rw [List.append_eq_nil_iff, fieldErrors_eq_nil_iff]
  constructor
  · rintro ⟨hname, hfields, hdistinct⟩
    have hnamed : ¬Text.IsBlank s.name := by
      intro hblank
      rw [if_pos hblank] at hname
      cases hname
    exact ⟨hnamed, fun f hf => (hfields f hf).1, hdistinct⟩
  · rintro ⟨hname, hsound, hdistinct⟩
    exact ⟨if_neg hname, fun f hf => ⟨hsound f hf, List.not_mem_nil⟩, hdistinct⟩

/-- Whether a schema is valid can be found out by looking for errors. -/
instance (s : Schema) : Decidable s.Valid :=
  decidable_of_iff (s.errors.isEmpty = true) (List.isEmpty_iff.trans Schema.errors_eq_nil_iff)

/-- Validation fails with the first of the errors. -/
theorem Schema.validate_eq_error_iff {e : Error} :
    s.validate = .error e ↔ s.errors.head? = some e := by
  unfold validate
  cases s.errors.head? with
  | none => exact ⟨nofun, nofun⟩
  | some e' => simp

/-- Validation passes if there are no errors. -/
theorem Schema.validate_eq_ok_iff : s.validate = .ok () ↔ s.errors = [] := by
  unfold validate
  cases s.errors with
  | nil => exact iff_of_true rfl rfl
  | cons e rest => exact ⟨nofun, nofun⟩

/-- A schema is said to be valid exactly if validation passes. -/
theorem Schema.isValid_iff : s.isValid = true ↔ s.validate = .ok () := by
  unfold isValid
  cases s.validate with
  | error e => exact ⟨nofun, nofun⟩
  | ok => exact iff_of_true rfl rfl

/-- The error of a schema's name comes first, then those of its fields, field by field. -/
theorem Schema.errors_eq_flatMap (s : Schema) : s.errors =
    (if Text.IsBlank s.name then [.validation "Schema name cannot be empty"] else []) ++
      (s.fields.zipIdx.flatMap fun (f, i) =>
        errorsAfter s.name ((s.fields.take i).map Field.name) f) := by
  have hfields := fieldErrors_eq_flatMap s.name [] s.fields
  simp only [List.append_nil] at hfields
  rw [errors, hfields]

/-! ## Repeated names -/

/-- An error says that a name is repeated. -/
def Error.isDuplicate : Error → Bool
  | duplicateField .. => true
  | _ => false

/-- The names of fields that are not empty, as often as they occur. -/
def fieldNames (fields : List Field) : List String := (fields.map Field.name).filter (· ≠ "")

/-- A field is reported as a duplicate at most once: if its name is not empty and has been seen. -/
theorem countP_errorsAfter (schema : String) (seen : List String) (f : Field) :
    (errorsAfter schema seen f).countP Error.isDuplicate =
      if f.name ≠ "" ∧ f.name ∈ seen then 1 else 0 := by
  have hown : (f.problem?.toList.map fun p =>
      Error.fieldValidation schema f.name p.message).countP Error.isDuplicate = 0 := by
    cases f.problem? <;> rfl
  unfold errorsAfter
  rw [List.countP_append, hown, Nat.zero_add]
  split <;> rfl

/-- Names with one more have one more that is new, unless that one is known. -/
theorem card_insert_sdiff (name : String) (names known : Finset String) :
    (insert name names \ known).card =
      (if name ∈ known then 0 else 1) + (names \ insert name known).card := by
  split
  next hknown =>
    rw [Finset.insert_sdiff_of_mem _ hknown, Finset.insert_eq_of_mem hknown, Nat.zero_add]
  next hnew =>
    have hsplit : insert name names \ known = insert name (names \ insert name known) := by
      ext other
      by_cases hother : other = name
      · simp [hother, hnew]
      · simp [hother]
    rw [hsplit, Finset.card_insert_of_notMem (by simp), Nat.add_comm]

/-- The duplicates that are reported and the different names that are new make up all names that are
not empty. -/
theorem countP_fieldErrors (schema : String) (seen : List String) (fields : List Field) :
    (fieldErrors schema seen fields).countP Error.isDuplicate +
      ((fieldNames fields).toFinset \ seen.toFinset).card = (fieldNames fields).length := by
  induction fields generalizing seen with
  | nil => simp [fieldErrors, fieldNames]
  | cons f rest ih =>
    have hrest := ih (f.name :: seen)
    rw [fieldErrors_cons, List.countP_append, countP_errorsAfter]
    rw [List.toFinset_cons] at hrest
    by_cases hempty : f.name = ""
    · -- The empty name is none of the names, so it makes no difference that it has been seen.
      have hnames : fieldNames (f :: rest) = fieldNames rest := by simp [fieldNames, hempty]
      have hnone : f.name ∉ (fieldNames rest).toFinset := by simp [fieldNames, hempty]
      rw [Finset.sdiff_insert_of_notMem hnone] at hrest
      rw [hnames, if_neg fun h => h.1 hempty, Nat.zero_add]
      exact hrest
    · have hnames : fieldNames (f :: rest) = f.name :: fieldNames rest := by
        simp [fieldNames, hempty]
      have hcard := card_insert_sdiff f.name (fieldNames rest).toFinset seen.toFinset
      rw [hnames, List.length_cons, List.toFinset_cons, hcard]
      by_cases hseen : f.name ∈ seen
      · rw [if_pos ⟨hempty, hseen⟩, if_pos (List.mem_toFinset.mpr hseen)]
        omega
      · rw [if_neg fun h => hseen h.2, if_neg fun hin => hseen (List.mem_toFinset.mp hin)]
        omega

/-- A schema has one duplicate for each name that is not empty, less the different ones. -/
theorem Schema.countP_errors (s : Schema) :
    s.errors.countP Error.isDuplicate + (fieldNames s.fields).dedup.length =
      (fieldNames s.fields).length := by
  have hname : (if Text.IsBlank s.name then [Error.validation "Schema name cannot be empty"]
      else []).countP Error.isDuplicate = 0 := by
    split <;> rfl
  have hfields := countP_fieldErrors s.name [] s.fields
  rw [List.toFinset_nil, Finset.sdiff_empty, List.card_toFinset] at hfields
  unfold errors
  rw [List.countP_append, hname, Nat.zero_add]
  exact hfields

/-! ## Sets -/

/-- The schemas of a set with their actions, section by section, dropped schemas included. -/
def SchemaSet.listed (set : SchemaSet) : List (Action × Schema) :=
  Action.all.flatMap fun a => (set.schemas a).map fun schema => (a, schema)

/-- The report of a set lists its invalid schemas, in the order of the sections, and no others. -/
theorem SchemaSet.report_eq (set : SchemaSet) :
    set.report = (set.listed.filter fun p => ¬p.2.Valid).map fun p =>
      ⟨p.1, p.2.name, p.2.errors⟩ := by
  have hsection : ∀ (a : Action) (schemas : List Schema),
      (schemas.filterMap fun schema =>
        if schema.errors.isEmpty then none
        else some (⟨a, schema.name, schema.errors⟩ : InvalidSchema)) =
      ((schemas.map fun schema => (a, schema)).filter fun p => ¬p.2.Valid).map fun p =>
        ⟨p.1, p.2.name, p.2.errors⟩ := by
    intro a schemas
    induction schemas with
    | nil => rfl
    | cons schema rest ih =>
      have hempty : schema.errors.isEmpty = true ↔ schema.Valid :=
        List.isEmpty_iff.trans Schema.errors_eq_nil_iff
      rw [List.filterMap_cons, List.map_cons, List.filter_cons, ih]
      by_cases hvalid : schema.Valid
      · rw [if_pos (hempty.mpr hvalid), if_neg (by simpa using hvalid)]
      · rw [if_neg (mt hempty.mp hvalid), if_pos (by simpa using hvalid)]
        rfl
  unfold report listed
  rw [List.filter_flatMap, List.map_flatMap]
  simp only [hsection]

/-- Validation decides exactly what is asked of a schema: it finds nothing, passes, and says that
the schema is valid, in the same cases, which are those of a valid schema. Its errors come in order,
that of the schema's name first and then those of the fields, one field after the other, and the
first of them is the one that it fails with. It reports a duplicate as often as a name that is not
empty is repeated. The report of a set has, section by section, the schemas that are not valid,
dropped ones included, each with its errors. -/
theorem validation_exact :
    (∀ s : Schema,
      ((s.messages = [] ↔ s.Valid) ∧ (s.validate = .ok () ↔ s.Valid) ∧
        (s.isValid = true ↔ s.Valid)) ∧
      s.errors =
        (if Text.IsBlank s.name then [.validation "Schema name cannot be empty"] else []) ++
        (s.fields.zipIdx.flatMap fun (f, i) =>
          errorsAfter s.name ((s.fields.take i).map Field.name) f) ∧
      (∀ e, s.validate = .error e ↔ s.errors.head? = some e) ∧
      (∀ message, (∃ e, s.validate = .error e ∧ e.message = message) ↔
        s.messages.head? = some message) ∧
      s.errors.countP Error.isDuplicate =
        (fieldNames s.fields).length - (fieldNames s.fields).dedup.length) ∧
    ∀ set : SchemaSet, set.report =
      (set.listed.filter fun p => ¬p.2.Valid).map fun p => ⟨p.1, p.2.name, p.2.errors⟩ := by
  refine ⟨fun s => ⟨⟨?_, ?_, ?_⟩, s.errors_eq_flatMap, fun e => Schema.validate_eq_error_iff,
    fun message => ?_, ?_⟩, SchemaSet.report_eq⟩
  · rw [Schema.messages, List.map_eq_nil_iff, Schema.errors_eq_nil_iff]
  · rw [Schema.validate_eq_ok_iff, Schema.errors_eq_nil_iff]
  · rw [Schema.isValid_iff, Schema.validate_eq_ok_iff, Schema.errors_eq_nil_iff]
  · rw [Schema.messages, List.head?_map, Option.map_eq_some_iff]
    simp only [Schema.validate_eq_error_iff]
  · have hcount := s.countP_errors
    omega

end SchemaForge
