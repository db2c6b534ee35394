import Mathlib.Data.List.Induction
import Mathlib.Logic.Function.Iterate
import SchemaForge.Migration.Name
import SchemaForge.Proofs.Text.Camel
import SchemaForge.Proofs.Text.Slice

/-!
# The singular of a word

A word is made singular at its end only: an `s` or `es` is cut off, `ies` becomes `y`, and any other
word stays (`isSingular_singularChars`). What comes out does not end in a way that would be cut
again, so it stays (`singularChars_singularChars`). The endings are ASCII, so they can be cut off by
their lengths in bytes: `singularByBytes?` slices a word by position, and never inside a character
(`singularByBytes?_eq`). `singular_safe` says all this of the singular of any word.
-/

namespace SchemaForge.Seeder

open Text (encoded encoded_append forall_of_all length_encoded_of_ascii length_encoded_pos_iff
  withoutLast? withoutLast?_append)

variable {word result stem cut : List Char} {endings others : List String} {ending : String}

/-! ## Endings -/

/-- A text is an ending, capitals and small letters being the same. -/
def Spells (ending : String) (cut : List Char) : Prop := cut.map Char.toLower = ending.toList

/-- A word ends in one of some endings if it does so in small letters. -/
theorem endsIn_iff :
    endsIn endings word = true ↔ ∃ ending ∈ endings, ending.toList <:+ word.map Char.toLower := by
  simp only [endsIn, List.any_eq_true, List.isSuffixOf_iff_suffix]

/-- A word that ends in one of some endings ends in one of more. -/
theorem endsIn_of_subset (hmore : ∀ ending ∈ endings, ending ∈ others)
    (h : endsIn endings word = true) : endsIn others word = true := by
  obtain ⟨ending, hin, hsuffix⟩ := endsIn_iff.mp h
  exact endsIn_iff.mpr ⟨ending, hmore ending hin, hsuffix⟩

/-- A word has two endings only if one of them ends in the other. -/
theorem endsIn_eq_false (h : endsIn endings word = true)
    (hothers : ∀ ending ∈ endings, ∀ other ∈ others,
      ¬ending.toList <:+ other.toList ∧ ¬other.toList <:+ ending.toList) :
    endsIn others word = false := by
  rw [Bool.eq_false_iff]
  intro hboth
  obtain ⟨ending, hin, hending⟩ := endsIn_iff.mp h
  obtain ⟨other, hother, hsuffix⟩ := endsIn_iff.mp hboth
  obtain ⟨hshort, hlong⟩ := hothers ending hin other hother
  exact (List.suffix_or_suffix_of_suffix hending hsuffix).elim hshort hlong

/-- A word that ends in one of some endings with something behind each is a word that ends in one of
them and what is behind it. -/
theorem endsIn_map_append_iff :
    endsIn (endings.map (· ++ ending)) word = true ↔
      ∃ stem cut, word = stem ++ cut ∧ endsIn endings stem = true ∧ Spells ending cut := by
  rw [endsIn_iff]
  constructor
  · rintro ⟨whole, hwhole, before, hword⟩
    obtain ⟨first, hfirst, rfl⟩ := List.mem_map.mp hwhole
    rw [String.toList_append, ← List.append_assoc] at hword
    obtain ⟨stem, cut, rfl, hstem, hcut⟩ := List.map_eq_append_iff.mp hword.symm
    exact ⟨stem, cut, rfl, endsIn_iff.mpr ⟨first, hfirst, before, hstem.symm⟩, hcut⟩
  · rintro ⟨stem, cut, rfl, hstem, hcut⟩
    obtain ⟨first, hfirst, before, hbefore⟩ := endsIn_iff.mp hstem
    refine ⟨first ++ ending, List.mem_map_of_mem hfirst, before, ?_⟩
    rw [List.map_append, hcut, ← hbefore, String.toList_append, List.append_assoc]

/-- A word that ends in an ending is a stem and the ending. -/
theorem endsIn_singleton_iff :
    endsIn [ending] word = true ↔ ∃ stem cut, word = stem ++ cut ∧ Spells ending cut := by
  have hempty : [ending] = [""].map (· ++ ending) := by simp
  have hstem : ∀ stem, endsIn [""] stem = true :=
    fun stem => endsIn_iff.mpr ⟨"", List.mem_singleton_self _, List.nil_suffix⟩
  rw [hempty, endsIn_map_append_iff]
  simp only [hstem, true_and]

/-- A spelled ending has as many characters as the ending. -/
theorem Spells.length_eq (h : Spells ending cut) : cut.length = ending.toList.length := by
  rw [← h, List.length_map]

/-- A word that is longer than its ending has something in front of it. -/
theorem Spells.lt_length_iff (h : Spells ending cut) :
    ending.toList.length < (stem ++ cut).length ↔ stem ≠ [] := by
  rw [List.length_append, h.length_eq, Nat.lt_add_left_iff_pos, List.length_pos_iff]

/-- An ending is dropped from a word character by character. -/
theorem Spells.iterate_dropLast (h : Spells ending cut) :
    List.dropLast^[ending.toList.length] (stem ++ cut) = stem := by
  rw [← h.length_eq]
  clear h
  induction cut using List.reverseRecOn with
  | nil => rw [List.append_nil]; rfl
  | append_singleton cut c ih =>
    rw [List.length_append, List.length_singleton, Function.iterate_succ_apply,
      ← List.append_assoc, List.dropLast_concat, ih]

/-! ## How a word is made singular -/

/-- The endings behind which `es` is cut off. -/
def hisses : List String := ["ss", "sh", "ch", "x", "zz"]

/-- What a word is made singular to. -/
inductive IsSingular : List Char → List Char → Prop where
  /-- In the place of `ies` behind something comes `y`. -/
  | ies {stem cut : List Char} : stem ≠ [] → Spells "ies" cut →
    IsSingular (stem ++ cut) (stem ++ ['y'])
  /-- The `es` behind a hiss is cut off. -/
  | es {stem cut : List Char} : endsIn hisses stem = true → Spells "es" cut →
    IsSingular (stem ++ cut) stem
  /-- The `s` behind something that does not end in `s` is cut off. -/
  | s {stem cut : List Char} : stem ≠ [] → endsIn ["s"] stem = false → Spells "s" cut →
    IsSingular (stem ++ cut) stem
  /-- The word stays. -/
  | same {word : List Char} : IsSingular word word

/-- The endings that lose their `es`. -/
theorem hisses_append_es : ["sses", "shes", "ches", "xes", "zzes"] = hisses.map (· ++ "es") := by
  decide

/-- Every word is made singular in one of these ways. -/
theorem isSingular_singularChars (word : List Char) : IsSingular word (singularChars word) := by
  unfold singularChars
  split
  next h =>
    obtain ⟨stem, cut, rfl, hcut⟩ := endsIn_singleton_iff.mp h.1
    have hdrop : (stem ++ cut).dropLast.dropLast.dropLast = stem := hcut.iterate_dropLast
    rw [hdrop]
    exact .ies (hcut.lt_length_iff.mp h.2) hcut
  next =>
  split
  next h =>
    rw [hisses_append_es] at h
    obtain ⟨stem, cut, rfl, hstem, hcut⟩ := endsIn_map_append_iff.mp h
    have hdrop : (stem ++ cut).dropLast.dropLast = stem := hcut.iterate_dropLast
    rw [hdrop]
    exact .es hstem hcut
  next =>
  split
  next => exact .same
  next hkept =>
  split
  next h =>
    obtain ⟨stem, cut, rfl, hcut⟩ := endsIn_singleton_iff.mp h.1
    have hdrop : (stem ++ cut).dropLast = stem := hcut.iterate_dropLast
    -- With another `s` in front, the word would have been kept.
    have hsingle : endsIn ["s"] stem = false := by
      rw [Bool.eq_false_iff]
      intro hs
      have hss : endsIn (["s"].map (· ++ "s")) (stem ++ cut) = true :=
        endsIn_map_append_iff.mpr ⟨stem, cut, rfl, hs, hcut⟩
      exact hkept (endsIn_of_subset (by decide) hss)
    rw [hdrop]
    exact .s (hcut.lt_length_iff.mp h.2) hsingle hcut
  next => exact .same

/-- A singular is the word, or the word without `s` or `es`, or has `y` in the place of `ies`. -/
theorem IsSingular.eq_or_append (h : IsSingular word result) :
    result = word ∨
      (∃ cut, word = result ++ cut ∧ (Spells "s" cut ∨ Spells "es" cut)) ∨
      ∃ stem cut, word = stem ++ cut ∧ Spells "ies" cut ∧ result = stem ++ ['y'] := by
  cases h with
  | @ies stem cut hstem hcut => exact .inr (.inr ⟨stem, cut, rfl, hcut, rfl⟩)
  | @es _ cut hstem hcut => exact .inr (.inl ⟨cut, rfl, .inr hcut⟩)
  | @s _ cut hstem hsingle hcut => exact .inr (.inl ⟨cut, rfl, .inl hcut⟩)
  | same => exact .inl rfl

/-- What is made singular keeps a stem that is not empty. -/
theorem IsSingular.eq_or_exists_stem (h : IsSingular word result) :
    result = word ∨ ∃ stem, stem ≠ [] ∧ stem <+: word ∧ stem <+: result := by
  cases h with
  | @ies stem cut hstem hcut =>
    exact .inr ⟨stem, hstem, List.prefix_append _ _, List.prefix_append _ _⟩
  | es hstem hcut =>
    refine .inr ⟨result, ?_, List.prefix_append _ _, List.prefix_rfl⟩
    rintro rfl
    revert hstem
    decide
  | s hstem hsingle hcut => exact .inr ⟨result, hstem, List.prefix_append _ _, List.prefix_rfl⟩
  | same => exact .inl rfl

/-- A word and its singular start with the same character, if they have any. -/
theorem IsSingular.head?_eq (h : IsSingular word result) : result.head? = word.head? := by
  rcases h.eq_or_exists_stem with rfl | ⟨stem, hstem, ⟨a, rfl⟩, ⟨b, rfl⟩⟩
  · rfl
  · rw [List.head?_append_of_ne_nil _ hstem, List.head?_append_of_ne_nil _ hstem]

/-- The singular of a word is empty only if the word is. -/
theorem IsSingular.eq_nil_iff (h : IsSingular word result) : result = [] ↔ word = [] := by
  rw [← List.head?_eq_none_iff, h.head?_eq, List.head?_eq_none_iff]

/-! ## The singular of a singular -/

/-- A word that does not end in `s` stays. -/
theorem singularChars_of_not_s (h : endsIn ["s"] word = false) : singularChars word = word := by
  -- Whatever is cut off ends in `s`.
  have hnone : ∀ endings : List String, (∀ ending ∈ endings, "s".toList <:+ ending.toList) →
      endsIn endings word = false := by
    intro endings hendings
    rw [Bool.eq_false_iff] at h ⊢
    intro hends
    obtain ⟨ending, hin, hsuffix⟩ := endsIn_iff.mp hends
    exact h (endsIn_iff.mpr ⟨"s", List.mem_singleton_self _, (hendings ending hin).trans hsuffix⟩)
  have hies : endsIn ["ies"] word = false := hnone _ (by decide)
  have hes : endsIn ["sses", "shes", "ches", "xes", "zzes"] word = false := hnone _ (by decide)
  simp [singularChars, hies, hes, h]

/-- A word that ends in `ss` stays. -/
theorem singularChars_of_ss (h : endsIn ["ss"] word = true) : singularChars word = word := by
  have hies : endsIn ["ies"] word = false := endsIn_eq_false h (by decide)
  have hes : endsIn ["sses", "shes", "ches", "xes", "zzes"] word = false :=
    endsIn_eq_false h (by decide)
  have hss : endsIn ["ss", "us", "is"] word = true := endsIn_of_subset (by decide) h
  simp [singularChars, hies, hes, hss]

/-- A word that ends in a hiss stays. -/
theorem singularChars_of_hiss (h : endsIn hisses word = true) : singularChars word = word := by
  by_cases hss : endsIn ["ss"] word = true
  · exact singularChars_of_ss hss
  · have hother : endsIn ["sh", "ch", "x", "zz"] word = true := by
      have hall : endsIn hisses word =
          (endsIn ["ss"] word || endsIn ["sh", "ch", "x", "zz"] word) := by
        simp [endsIn, hisses]
      rw [hall, Bool.or_eq_true] at h
      exact h.resolve_left hss
    exact singularChars_of_not_s (endsIn_eq_false hother (by decide))

/-- The singular of a word stays. -/
theorem singularChars_singularChars (word : List Char) :
    singularChars (singularChars word) = singularChars word := by
  have hsingular := isSingular_singularChars word
  generalize hresult : singularChars word = result at hsingular
  cases hsingular with
  | @ies stem cut hstem hcut =>
    have hy : endsIn ["y"] (stem ++ ['y']) = true :=
      endsIn_singleton_iff.mpr ⟨stem, ['y'], rfl, rfl⟩
    exact singularChars_of_not_s (endsIn_eq_false hy (by decide))
  | es hstem hcut => exact singularChars_of_hiss hstem
  | s hstem hsingle hcut => exact singularChars_of_not_s hsingle
  | same => exact hresult

/-! ## The singular by position -/

/-- The singular of a word by position: its length is that of its bytes, and it is sliced in front
of its last bytes. The answer is none if it is sliced inside a character. -/
def singularByBytes? (word : List Char) : Option (List Char) :=
  if endsIn ["ies"] word ∧ 3 < (encoded word).length then
    (withoutLast? 3 word).map (· ++ ['y'])
  else if endsIn ["sses", "shes", "ches", "xes", "zzes"] word then withoutLast? 2 word
  else if endsIn ["ss", "us", "is"] word then some word
  else if endsIn ["s"] word ∧ 1 < (encoded word).length then withoutLast? 1 word
  else some word

/-- A character with a small letter of ASCII is in ASCII. -/
theorem ascii_of_toLower {c : Char} (h : c.toLower.toNat < 128) : c.toNat < 128 := by
  unfold Char.toLower at h
  split at h
  next hupper =>
    have hval : c.toNat = c.val.toNat := rfl
    have hlast : 'Z'.val.toNat = 90 := rfl
    have hle := UInt32.le_iff_toNat_le.mp hupper.2
    omega
  next => exact h

/-- A spelled ending is as long in bytes as the ending in characters. -/
theorem Spells.length_encoded (h : Spells ending cut)
    (hascii : ∀ c ∈ ending.toList, c.toNat < 128) :
    (encoded cut).length = ending.toList.length := by
  rw [← h.length_eq]
  refine length_encoded_of_ascii fun c hc => ascii_of_toLower ?_
  exact hascii _ (h ▸ List.mem_map_of_mem hc)

/-- A word is sliced in front of a spelled ending. -/
theorem Spells.withoutLast?_eq (h : Spells ending cut)
    (hascii : ∀ c ∈ ending.toList, c.toNat < 128) :
    withoutLast? ending.toList.length (stem ++ cut) = some stem := by
  rw [← h.length_encoded hascii]
  exact withoutLast?_append stem cut

/-- A word is longer than its ending in bytes exactly if it is in characters. -/
theorem lt_length_encoded_iff (hascii : ∀ c ∈ ending.toList, c.toNat < 128)
    (h : endsIn [ending] word = true) :
    ending.toList.length < (encoded word).length ↔ ending.toList.length < word.length := by
  obtain ⟨stem, cut, rfl, hcut⟩ := endsIn_singleton_iff.mp h
  rw [hcut.lt_length_iff, encoded_append, List.length_append, hcut.length_encoded hascii,
    Nat.lt_add_left_iff_pos, length_encoded_pos_iff]

/-- Slicing by position never cuts a character apart, and gives the singular. -/
theorem singularByBytes?_eq (word : List Char) :
    singularByBytes? word = some (singularChars word) := by
  have hies : endsIn ["ies"] word = true ∧ 3 < (encoded word).length ↔
      endsIn ["ies"] word = true ∧ 3 < word.length :=
    and_congr_right fun h => lt_length_encoded_iff (forall_of_all (by decide)) h
  have hs : endsIn ["s"] word = true ∧ 1 < (encoded word).length ↔
      endsIn ["s"] word = true ∧ 1 < word.length :=
    and_congr_right fun h => lt_length_encoded_iff (forall_of_all (by decide)) h
  unfold singularByBytes? singularChars
  simp only [hies, hs]
  split
  next h =>
    obtain ⟨stem, cut, rfl, hcut⟩ := endsIn_singleton_iff.mp h.1
    have hdrop : (stem ++ cut).dropLast.dropLast.dropLast = stem := hcut.iterate_dropLast
    have hslice : withoutLast? 3 (stem ++ cut) = some stem :=
      hcut.withoutLast?_eq (forall_of_all (by decide))
    rw [hdrop, hslice, Option.map_some]
  next =>
  split
  next h =>
    rw [hisses_append_es] at h
    obtain ⟨stem, cut, rfl, -, hcut⟩ := endsIn_map_append_iff.mp h
    have hdrop : (stem ++ cut).dropLast.dropLast = stem := hcut.iterate_dropLast
    have hslice : withoutLast? 2 (stem ++ cut) = some stem :=
      hcut.withoutLast?_eq (forall_of_all (by decide))
    rw [hdrop, hslice]
  next =>
  split
  next => rfl
  next =>
  split
  next h =>
    obtain ⟨stem, cut, rfl, hcut⟩ := endsIn_singleton_iff.mp h.1
    have hdrop : (stem ++ cut).dropLast = stem := hcut.iterate_dropLast
    have hslice : withoutLast? 1 (stem ++ cut) = some stem :=
      hcut.withoutLast?_eq (forall_of_all (by decide))
    rw [hdrop, hslice]
  next => rfl

/-! ## Singulars -/

/-- The singular of a word is safe and stable, whatever the characters of the word: it is found by
slices that never cut a character apart, it is empty only if the word is, it is the word itself, the
word without an `s` or `es` at its end, or the word with `y` in the place of `ies`, and it is its
own singular. -/
theorem singular_safe (word : String) :
    singularByBytes? word.toList = some (singular word).toList ∧
    (singular word = "" ↔ word = "") ∧
    (singular word = word ∨
      (∃ cut, word.toList = (singular word).toList ++ cut ∧ (Spells "s" cut ∨ Spells "es" cut)) ∨
      ∃ stem cut, word.toList = stem ++ cut ∧ Spells "ies" cut ∧
        (singular word).toList = stem ++ ['y']) ∧
    singular (singular word) = singular word := by
  have hsingular := isSingular_singularChars word.toList
  have hchars : (singular word).toList = singularChars word.toList := String.toList_ofList
  refine ⟨?_, ?_, ?_, ?_⟩
  · rw [hchars, singularByBytes?_eq]
  · rw [← String.toList_eq_nil_iff, ← String.toList_eq_nil_iff, hchars]
    exact hsingular.eq_nil_iff
  · rw [← String.toList_inj, hchars]
    exact hsingular.eq_or_append
  · rw [← String.toList_inj, singular, String.toList_ofList, hchars, singularChars_singularChars]

/-- Capitals count like small letters, a short word keeps its stem, and what is in front of an
ending may have any characters. -/
example : singular "BoxES" = "Box" ∧ singular "ies" = "ie" ∧ singular "éIES" = "éy" ∧
    singular "s" = "s" := by
  decide +kernel

end SchemaForge.Seeder
