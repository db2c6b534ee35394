import Mathlib.Data.List.DropRight
import SchemaForge.Proofs.Seeder.Patch
import SchemaForge.Text.CharClass.Alphanumeric

/-!
# The method that the patch is put into

The patch looks for the name `run` and the opening of a body as for any other text, so it is content
with the end of a longer name. `InsertedInto` says which method the call is put into, by the whole
name in front of the opening, and `methods` lists the names of the methods that are opened in a
text. The call goes into one method, which is the first whose name ends in `run`
(`patch_into_method`); it is `run` itself exactly if no letter, digit or underscore stands before
the part that was found.
-/

namespace SchemaForge.Seeder

variable {text patched before back method other : String}

/-! ## Names at the end of a text -/

/-- A character that the name of a method can have: a letter, a digit or an underscore. -/
def isNameChar (c : Char) : Bool := Text.alphanumeric.contains c || c == '_'

/-- The name that a text ends with: all letters, digits and underscores at its end. -/
def nameAtEnd (text : String) : String := String.ofList (text.toList.rtakeWhile isNameChar)

/-- The name of the method that the patch looks for. -/
def runName : String := "run"

/-- A name ends in `run`. -/
def endsInRun (name : String) : Bool := runName.toList.isSuffixOf name.toList

/-- The last members of a list that pass a check, if those of its end all do. -/
theorem rtakeWhile_append_of_pos {α : Type} {p : α → Bool} {front word : List α}
    (h : ∀ c ∈ word, p c = true) : (front ++ word).rtakeWhile p = front.rtakeWhile p ++ word := by
  unfold List.rtakeWhile
  rw [List.reverse_append, List.takeWhile_append_of_pos (by simpa using h), List.reverse_append,
    List.reverse_reverse]

/-- All of `run` belongs to a name. -/
theorem isNameChar_of_mem_runName : ∀ c ∈ runName.toList, isNameChar c = true :=
  List.all_eq_true.mp (by decide)

/-- A text that ends in `run` ends with a name that does. -/
theorem nameAtEnd_append_runName (before : String) :
    nameAtEnd (before ++ runName) = nameAtEnd before ++ runName := by
  apply String.toList_inj.mp
  simp only [nameAtEnd, String.toList_append, String.toList_ofList,
    rtakeWhile_append_of_pos isNameChar_of_mem_runName]

/-- The name at the end of a text ends in `run` exactly if the text does. -/
theorem endsInRun_nameAtEnd_iff :
    endsInRun (nameAtEnd text) = true ↔ runName.toList <:+ text.toList := by
  rw [endsInRun, List.isSuffixOf_iff_suffix, nameAtEnd, String.toList_ofList]
  constructor
  · exact fun h => h.trans (List.rtakeWhile_suffix isNameChar text.toList)
  · rintro ⟨before, hbefore⟩
    rw [← hbefore, rtakeWhile_append_of_pos isNameChar_of_mem_runName]
    exact List.suffix_append _ _

/-- A text ends with no name exactly if its last character cannot belong to one. -/
theorem nameAtEnd_eq_empty_iff :
    nameAtEnd before = "" ↔ ∀ c ∈ before.toList.getLast?, isNameChar c = false := by
  have hempty : nameAtEnd before = "" ↔ before.toList.rtakeWhile isNameChar = [] := by
    rw [← String.toList_inj, nameAtEnd, String.toList_ofList]
    rfl
  rw [hempty, List.rtakeWhile_eq_nil_iff]
  cases before.toList using List.reverseRecOn with
  | nil => simp
  | append_singleton front c => simp

/-! ## Methods of a text -/

/-- What stands between the name of a method without parameters and its statements. -/
def bodyOpening : String := "()\n    \x7b\n"

/-- The opening of a `run` method is its name with the opening of a body. -/
theorem runAnchor_eq : runAnchor = runName ++ bodyOpening := by decide

/-- The opening of a body has characters. -/
theorem length_bodyOpening_pos : 0 < bodyOpening.toList.length := by decide

/-- A body opens at a place of a text. -/
def opensAt (text : String) (place : ℕ) : Bool :=
  bodyOpening.toList.isPrefixOf (text.toList.drop place)

/-- The name of the method whose body opens at a place of a text. -/
def methodAt (text : String) (place : ℕ) : String :=
  nameAtEnd (String.ofList (text.toList.take place))

/-- The names of the methods that are opened in a text, from left to right. -/
def methods (text : String) : List String :=
  ((List.range text.toList.length).filter (opensAt text)).map (methodAt text)

/-- The line that calls the root seeder is put at the top of a method of a text. -/
def InsertedInto (method text patched : String) : Prop :=
  ∃ front back, text = front ++ bodyOpening ++ back ∧
    patched = front ++ bodyOpening ++ callLine ++ back ∧ nameAtEnd front = method

/-- The methods whose names end in `run` are those with an opening that the patch can use. -/
theorem opensAt_and_endsInRun_iff {place : ℕ} :
    opensAt text place = true ∧ endsInRun (methodAt text place) = true ↔
      ∃ before after, text.toList = before ++ runAnchor.toList ++ after ∧
        before.length + runName.toList.length = place := by
  rw [opensAt, List.isPrefixOf_iff_prefix, methodAt, endsInRun_nameAtEnd_iff, String.toList_ofList]
  constructor
  · rintro ⟨⟨after, hafter⟩, ⟨before, hbefore⟩⟩
    refine ⟨before, after, ?_, ?_⟩
    · rw [← List.take_append_drop place text.toList, ← hbefore, ← hafter, runAnchor_eq]
      simp
    · -- A body opens there, so the text goes on behind the place.
      have hbehind := congrArg List.length hafter
      have hopening := length_bodyOpening_pos
      have hlength := congrArg List.length hbefore
      rw [List.length_append, List.length_drop] at hbehind
      rw [List.length_append, List.length_take] at hlength
      omega
  · rintro ⟨before, after, htext, rfl⟩
    have hcut : text.toList = (before ++ runName.toList) ++ (bodyOpening.toList ++ after) := by
      rw [htext, runAnchor_eq]
      simp
    rw [hcut, ← List.length_append, List.drop_left, List.take_left]
    exact ⟨List.prefix_append _ _, List.suffix_append _ _⟩

/-- The first opening of a `run` method that is found is that of the first method whose name ends in
`run`. -/
theorem find?_methods
    (h : Text.IsFirst runAnchor.toList text.toList before.toList back.toList) :
    (methods text).find? endsInRun = some (nameAtEnd (before ++ runName)) := by
  have hcut : text.toList = (before ++ runName).toList ++ (bodyOpening.toList ++ back.toList) := by
    rw [h.parts, runAnchor_eq]
    simp
  have hfound : (List.range text.toList.length).find? (fun place =>
      decide (opensAt text place = true ∧ endsInRun (methodAt text place) = true)) =
      some (before ++ runName).toList.length := by
    rw [List.find?_range_eq_some]
    refine ⟨?_, ?_, fun place hplaced => ?_⟩
    · rw [decide_eq_true_eq, opensAt_and_endsInRun_iff]
      exact ⟨before.toList, back.toList, h.parts, by simp⟩
    · have hopening := length_bodyOpening_pos
      rw [List.mem_range, hcut, List.length_append, List.length_append]
      omega
    · -- A method further in front whose name ends in `run` would have been found there.
      rw [Bool.not_eq_true', decide_eq_false_iff_not, opensAt_and_endsInRun_iff]
      rintro ⟨before', after', htext, rfl⟩
      have hfirst := h.first before' after' htext
      rw [String.toList_append, List.length_append] at hplaced
      omega
  have hname : methodAt text (before ++ runName).toList.length = nameAtEnd (before ++ runName) := by
    rw [methodAt, hcut, List.take_left, String.ofList_toList]
  rw [methods, List.find?_map, List.find?_filter]
  simp only [Function.comp_apply, hfound, Option.map_some, hname]

/-! ## The patch -/

/-- A text that is patched has not had the call. -/
theorem not_call_of_patched (h : patch text = .patched patched) :
    ¬(call rootClass).toList <:+: text.toList := by
  intro hcall
  rw [patch_of_call hcall] at h
  cases h

/-- The call is put into one method at most. -/
theorem InsertedInto.unique (hpatch : patch text = .patched patched)
    (h : InsertedInto method text patched) (h' : InsertedInto other text patched) :
    other = method := by
  have hfresh := not_call_of_patched hpatch
  obtain ⟨before, after, htext, hpatched⟩ := patch_inserts hpatch
  have honce : Text.OccursOnce (call rootClass).toList patched.toList := by
    rw [hpatched]
    exact occursOnce_inserted (htext ▸ hfresh)
  -- The call has one place, so the two methods have the same text in front of their openings.
  have hoccurs : ∀ front back : String, patched = front ++ bodyOpening ++ callLine ++ back →
      ∃ after, patched.toList = (front ++ bodyOpening ++ bodyIndent).toList ++
        (call rootClass).toList ++ after := by
    intro front back hinserted
    exact ⟨("\n" ++ back).toList, by simp [hinserted, callLine]⟩
  obtain ⟨front, back, -, hinserted, rfl⟩ := h
  obtain ⟨front', back', -, hinserted', rfl⟩ := h'
  have hplace := honce.unique (hoccurs front' back' hinserted') (hoccurs front back hinserted)
  rw [String.toList_inj, String.append_assoc, String.append_assoc] at hplace
  rw [(String.append_left_inj _).mp hplace]

/-- A patched text has the call at the top of one method and of no other: the first one whose name
ends in `run`. This is the method `run` exactly if the character before the opening that was used is
no letter, digit or underscore. -/
theorem patch_into_method (h : patch text = .patched patched) :
    ∃ method, InsertedInto method text patched ∧
      (∀ other, InsertedInto other text patched → other = method) ∧
      (methods text).find? endsInRun = some method ∧
      ∃ before back : String,
        Text.IsFirst runAnchor.toList text.toList before.toList back.toList ∧
        patched = before ++ runAnchor ++ callLine ++ back ∧
        (method = "run" ↔ ∀ c ∈ before.toList.getLast?, isNameChar c = false) := by
  have hanchor : runAnchor.toList <:+: text.toList := by
    obtain ⟨before, after, rfl, -⟩ := patch_inserts h
    exact ⟨before.toList, after.toList, by simp⟩
  obtain ⟨before, back, htext, hfirst, hpatch⟩ := patch_of_anchor (not_call_of_patched h) hanchor
  obtain rfl : before ++ runAnchor ++ callLine ++ back = patched :=
    Patch.patched.inj (hpatch.symm.trans h)
  have hinserted : InsertedInto (nameAtEnd (before ++ runName)) text
      (before ++ runAnchor ++ callLine ++ back) := by
    refine ⟨before ++ runName, back, ?_, ?_, rfl⟩
    · simp only [htext, runAnchor_eq, String.append_assoc]
    · simp only [runAnchor_eq, String.append_assoc]
  refine ⟨_, hinserted, fun other hother => hinserted.unique h hother, find?_methods hfirst, before,
    back, hfirst, rfl, ?_⟩
  rw [nameAtEnd_append_runName, ← nameAtEnd_eq_empty_iff]
  exact String.append_eq_right_iff

/-- A text with a method `prune` in front of `run` gets the call into `run`: bodies open after both,
but only one of the names ends in `run`. -/
theorem patch_into_method_second :
    let text := "function prune()\n    \x7b\n    \x7d\nfunction run()\n    \x7b\n    \x7d\n"
    let patched := "function prune()\n    \x7b\n    \x7d\nfunction run()\n    \x7b\n" ++
      "        $this->call(CiviDatabaseSeeder::class);\n    \x7d\n"
    patch text = .patched patched ∧ methods text = ["prune", "run"] ∧
      InsertedInto "run" text patched ∧
      ∀ other, InsertedInto other text patched → other = "run" := by
  intro text patched
  have hpatch : patch text = .patched patched := by decide +kernel
  have hmethods : methods text = ["prune", "run"] := by decide +kernel
  obtain ⟨method, hinserted, hunique, hfirst, -⟩ := patch_into_method hpatch
  have hrun : (methods text).find? endsInRun = some "run" := by
    rw [hmethods]
    decide +kernel
  obtain rfl : "run" = method := Option.some.inj (hrun.symm.trans hfirst)
  exact ⟨hpatch, hmethods, hinserted, hunique⟩

/-- The call is not always put into `run`: a method `dry_run` in front of it gets the call. -/
theorem not_patch_into_run :
    ¬∀ text patched, patch text = .patched patched → InsertedInto "run" text patched := by
  intro h
  let front := "<?php\n\nclass DatabaseSeeder extends Seeder\n\x7b\n    private function dry_run"
  let back := "        return false;\n    \x7d\n\n    public function run()\n    \x7b\n" ++
    "    \x7d\n\x7d\n"
  have hpatch : patch (front ++ bodyOpening ++ back) =
      .patched (front ++ bodyOpening ++ callLine ++ back) := by decide +kernel
  have hinserted : InsertedInto "dry_run" (front ++ bodyOpening ++ back)
      (front ++ bodyOpening ++ callLine ++ back) := ⟨front, back, rfl, rfl, by decide +kernel⟩
  have hrun := hinserted.unique hpatch (h _ _ hpatch)
  exact absurd hrun (by decide)

end SchemaForge.Seeder
