import Mathlib.Data.List.Infix
import Mathlib.Tactic.Common
import SchemaForge.Seeder.Patch

/-!
# The patch inserts one line

A patched text is the old one with the line that calls the root seeder after the first opening of a
`run` method (`patch_inserts`), and it is not patched again (`patch_patched`). `patch_inserts_once`
says which texts are patched, which occurrence of the opening is used, and that the patched text has
the call exactly once: the inserted line is set off by white space, of which the call has none, so no
other occurrence can use a part of it (`occurrence_beside`).
-/

namespace SchemaForge

namespace Text

/-- A text is cut around an occurrence of the pattern. -/
theorem cut_eq_append {pattern text before after : List Char}
    (h : cut pattern text = some (before, after)) : text = before ++ pattern ++ after := by
  fun_induction cut pattern text generalizing before after with
  | case1 hempty =>
    cases h
    simpa using hempty
  | case2 => cases h
  | case3 c rest hstarts =>
    cases h
    obtain ⟨back, hback⟩ := List.isPrefixOf_iff_prefix.mp hstarts
    rw [← hback]
    simp
  | case4 c rest hstarts ih =>
    obtain ⟨⟨front, back⟩, hcut, hparts⟩ := Option.map_eq_some_iff.mp h
    cases hparts
    rw [ih hcut]
    rfl

/-- A text with an occurrence of the pattern is cut. -/
theorem isSome_cut {pattern text : List Char} (h : pattern <:+: text) :
    (cut pattern text).isSome := by
  induction text with
  | nil => simp [cut, List.infix_nil.mp h]
  | cons c rest ih =>
    rw [cut]
    split
    · rfl
    next hstarts =>
      rcases List.infix_cons_iff.mp h with h | h
      · exact absurd (List.isPrefixOf_iff_prefix.mpr h) hstarts
      · simpa using ih h

/-- A pattern occurs in a text when it is a part of it. -/
theorem occurs_iff {pattern text : List Char} : occurs pattern text = true ↔ pattern <:+: text := by
  refine ⟨fun h => ?_, isSome_cut⟩
  obtain ⟨⟨before, after⟩, hcut⟩ := Option.isSome_iff_exists.mp h
  exact ⟨before, after, (cut_eq_append hcut).symm⟩

/-- The first occurrence of a pattern in a text, by what stands before and after it. -/
structure IsFirst (pattern text before after : List Char) : Prop where
  /-- The pattern stands between the two parts. -/
  parts : text = before ++ pattern ++ after
  /-- It stands nowhere further in front. -/
  first : ∀ before' after', text = before' ++ pattern ++ after' → before.length ≤ before'.length

/-- A text is cut around the first occurrence of the pattern. -/
theorem isFirst_of_cut {pattern text before after : List Char}
    (h : cut pattern text = some (before, after)) : IsFirst pattern text before after := by
  refine ⟨cut_eq_append h, fun before' after' htext => ?_⟩
  fun_induction cut pattern text generalizing before after before' with
  | case1 => cases h; exact Nat.zero_le _
  | case2 => cases h
  | case3 => cases h; exact Nat.zero_le _
  | case4 c rest hstarts ih =>
    obtain ⟨⟨front, back⟩, hcut, hparts⟩ := Option.map_eq_some_iff.mp h
    cases hparts
    cases before' with
    | nil =>
      -- An occurrence at the very front would have been found there.
      have hfront : pattern <+: c :: rest := ⟨after', by simpa using htext.symm⟩
      exact absurd (List.isPrefixOf_iff_prefix.mpr hfront) hstarts
    | cons d before' =>
      obtain ⟨rfl, hrest⟩ := List.cons.inj htext
      exact Nat.succ_le_succ (ih hcut before' hrest)

/-- A pattern stands in a text in exactly one place. -/
def OccursOnce (pattern text : List Char) : Prop :=
  ∃! before, ∃ after, text = before ++ pattern ++ after

/-- A pattern without some character stands on one side of that character. -/
theorem occurrence_beside {c : Char} {pattern left right before after : List Char}
    (hc : c ∉ pattern) (h : left ++ c :: right = before ++ pattern ++ after) :
    (∃ more, left = before ++ pattern ++ more) ∨
      ∃ more, before = left ++ c :: more ∧ right = more ++ pattern ++ after := by
  rcases List.append_eq_append_iff.mp h with ⟨gap, hbehind, hright⟩ | ⟨more, hleft, -⟩
  · cases gap with
    | nil => exact .inl ⟨[], by simpa using hbehind.symm⟩
    | cons d gap =>
      obtain ⟨rfl, rfl⟩ := List.cons.inj hright
      -- The pattern ends behind the character and does not have it, so it starts behind it, too.
      rcases List.append_eq_append_iff.mp hbehind with ⟨within, -, hpattern⟩ | ⟨more, hbefore, hgap⟩
      · exact absurd (by simp [hpattern]) hc
      · cases more with
        | nil =>
          obtain rfl : c :: gap = pattern := hgap
          exact absurd List.mem_cons_self hc
        | cons d more =>
          obtain ⟨rfl, rfl⟩ := List.cons.inj hgap
          exact .inr ⟨more, hbefore, rfl⟩
  · exact .inl ⟨more, hleft⟩

end Text

namespace Seeder

/-- One text is the other with the line that calls the root seeder after an opening of a `run`
method. -/
def IsPatched (text patched : String) : Prop :=
  ∃ before after, text = before ++ runAnchor ++ after ∧
    patched = before ++ runAnchor ++ callLine ++ after

/-- Patching inserts one line. -/
theorem patch_inserts {text patched : String} (h : patch text = .patched patched) :
    IsPatched text patched := by
  unfold patch at h
  split at h
  · cases h
  · split at h
    next before after hcut =>
      cases h
      refine ⟨String.ofList before, String.ofList after, ?_, rfl⟩
      apply String.toList_inj.mp
      simpa using Text.cut_eq_append hcut
    next => cases h

/-- A text that calls the root seeder is left alone. -/
theorem patch_of_call {text : String} (h : (call rootClass).toList <:+: text.toList) :
    patch text = .alreadyCalls := by
  rw [patch, if_pos (Text.occurs_iff.mpr h)]

/-- A text without the call and without an opening of a `run` method is left alone. -/
theorem patch_of_noAnchor {text : String} (hcall : ¬(call rootClass).toList <:+: text.toList)
    (hanchor : ¬runAnchor.toList <:+: text.toList) : patch text = .missingAnchor := by
  have hfresh := mt Text.occurs_iff.mp hcall
  cases hcut : Text.cut runAnchor.toList text.toList with
  | none => rw [patch, if_neg hfresh, hcut]
  | some parts =>
    have hoccurs : Text.occurs runAnchor.toList text.toList = true := Option.isSome_of_eq_some hcut
    exact absurd (Text.occurs_iff.mp hoccurs) hanchor

/-- A text without the call gets the line behind its first opening of a `run` method. -/
theorem patch_of_anchor {text : String} (hcall : ¬(call rootClass).toList <:+: text.toList)
    (hanchor : runAnchor.toList <:+: text.toList) :
    ∃ front back : String, text = front ++ runAnchor ++ back ∧
      Text.IsFirst runAnchor.toList text.toList front.toList back.toList ∧
      patch text = .patched (front ++ runAnchor ++ callLine ++ back) := by
  have hfresh := mt Text.occurs_iff.mp hcall
  obtain ⟨⟨before, after⟩, hcut⟩ := Option.isSome_iff_exists.mp (Text.isSome_cut hanchor)
  have hfirst := Text.isFirst_of_cut hcut
  refine ⟨String.ofList before, String.ofList after, ?_, ?_, ?_⟩
  · apply String.toList_inj.mp
    simpa using hfirst.parts
  · simpa only [String.toList_ofList] using hfirst
  · rw [patch, if_neg hfresh, hcut]

/-- A patched text calls the root seeder. -/
theorem patch_patched {text patched : String} (h : patch text = .patched patched) :
    patch patched = .alreadyCalls := by
  obtain ⟨before, after, -, rfl⟩ := patch_inserts h
  refine patch_of_call ⟨(before ++ runAnchor ++ bodyIndent).toList, ("\n" ++ after).toList, ?_⟩
  simp [callLine]

/-- The call has no white space of the kinds that set off the inserted line. -/
theorem notMem_call : '\n' ∉ (call rootClass).toList ∧ ' ' ∉ (call rootClass).toList := by
  decide

/-- A line with the call has it in one place. -/
theorem eq_indent_of_callLine {before after : List Char}
    (h : bodyIndent.toList ++ (call rootClass).toList =
      before ++ (call rootClass).toList ++ after) : before = bodyIndent.toList := by
  have hindent : bodyIndent.toList = List.replicate 7 ' ' ++ ' ' :: [] := by decide
  have hlong : 7 < (call rootClass).toList.length := by decide
  rw [hindent, List.append_assoc, List.cons_append, List.nil_append] at h
  rcases Text.occurrence_beside notMem_call.2 h with ⟨more, hspaces⟩ | ⟨more, rfl, hcall⟩
  · have hlength := congrArg List.length hspaces
    simp only [List.length_replicate, List.length_append] at hlength
    omega
  · have hlength := congrArg List.length hcall
    simp only [List.length_append] at hlength
    obtain rfl : more = [] := List.eq_nil_of_length_eq_zero (by omega)
    exact hindent.symm

/-- A text without the call has it once after the line is inserted behind an opening. -/
theorem occursOnce_inserted {front back : String}
    (h : ¬(call rootClass).toList <:+: (front ++ runAnchor ++ back).toList) :
    Text.OccursOnce (call rootClass).toList (front ++ runAnchor ++ callLine ++ back).toList := by
  -- The inserted line starts behind the line break of the opening and ends with its own.
  obtain ⟨opening, hanchor⟩ : ∃ opening, runAnchor.toList = opening ++ ['\n'] :=
    ⟨runAnchor.toList.dropLast, by decide⟩
  have hold : (front ++ runAnchor ++ back).toList =
      (front.toList ++ opening) ++ '\n' :: back.toList := by
    simp [hanchor]
  have hnew : (front ++ runAnchor ++ callLine ++ back).toList = (front.toList ++ opening) ++ '\n' ::
      ((bodyIndent.toList ++ (call rootClass).toList) ++ '\n' :: back.toList) := by
    simp [hanchor, callLine]
  have hplace : (front ++ runAnchor ++ bodyIndent).toList =
      (front.toList ++ opening) ++ '\n' :: bodyIndent.toList := by
    simp [hanchor]
  rw [hold] at h
  rw [hnew]
  refine ⟨(front ++ runAnchor ++ bodyIndent).toList, ⟨'\n' :: back.toList, ?_⟩, ?_⟩
  · simp [hplace]
  · rintro before ⟨after, hoccurs⟩
    rcases Text.occurrence_beside notMem_call.1 hoccurs with ⟨more, hfront⟩ | ⟨more, rfl, hbehind⟩
    · rw [hfront] at h
      exact absurd ⟨before, more ++ '\n' :: back.toList, by simp⟩ h
    rcases Text.occurrence_beside notMem_call.1 hbehind with ⟨rest, hline⟩ | ⟨rest, -, hback⟩
    · rw [hplace, eq_indent_of_callLine hline]
    · rw [hback] at h
      exact absurd ⟨front.toList ++ opening ++ '\n' :: rest, after, by simp⟩ h

/-- The patch inserts one line, once. A text is left alone if it has the call, and also if it has no
opening of a `run` method. Any other text is patched: the line with the call is put behind the first
opening, and nothing else changes. The patched text has the call in exactly one place, and is left
alone from then on. -/
theorem patch_inserts_once (text : String) :
    (patch text = .alreadyCalls ↔ (call rootClass).toList <:+: text.toList) ∧
    (patch text = .missingAnchor ↔
      ¬(call rootClass).toList <:+: text.toList ∧ ¬runAnchor.toList <:+: text.toList) ∧
    (¬(call rootClass).toList <:+: text.toList ∧ runAnchor.toList <:+: text.toList →
      ∃ front back : String,
        Text.IsFirst runAnchor.toList text.toList front.toList back.toList ∧
        patch text = .patched
          (front ++ runAnchor ++ (bodyIndent ++ call rootClass ++ "\n") ++ back) ∧
        Text.OccursOnce (call rootClass).toList
          (front ++ runAnchor ++ (bodyIndent ++ call rootClass ++ "\n") ++ back).toList ∧
        patch (front ++ runAnchor ++ (bodyIndent ++ call rootClass ++ "\n") ++ back) =
          .alreadyCalls) := by
  have hline : bodyIndent ++ call rootClass ++ "\n" = callLine := rfl
  rw [hline]
  by_cases hcall : (call rootClass).toList <:+: text.toList
  · have hpatch := patch_of_call hcall
    simp [hpatch, hcall]
  by_cases hanchor : runAnchor.toList <:+: text.toList
  · obtain ⟨front, back, htext, hfirst, hpatch⟩ := patch_of_anchor hcall hanchor
    rw [htext] at hcall
    have honce := occursOnce_inserted hcall
    rw [← htext] at hcall
    have hagain := patch_patched hpatch
    refine ⟨by simp [hpatch, hcall], by simp [hpatch, hanchor], fun _ => ?_⟩
    exact ⟨front, back, hfirst, hpatch, honce, hagain⟩
  · have hpatch := patch_of_noAnchor hcall hanchor
    simp [hpatch, hcall, hanchor]

/-- A text with two methods gets the call in the first one. -/
example : patch "run()\n    \x7b\n    \x7d\nrun()\n    \x7b\n" =
    .patched ("run()\n    \x7b\n        $this->call(CiviDatabaseSeeder::class);\n    \x7d\n" ++
      "run()\n    \x7b\n") := by
  decide +kernel

end Seeder

end SchemaForge
