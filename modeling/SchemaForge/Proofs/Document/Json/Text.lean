import Mathlib.Tactic.Common
import SchemaForge.Document.Json.Parser
import SchemaForge.Document.Json.Printer

/-!
# Texts of JSON read back

Whatever characters a text has, its written form is read as the text, up to the closing quote
(`takeText_renderText`). A character is never half of a surrogate pair, so no pair is made of two
characters of a text.
-/

namespace SchemaForge.Document.Json

/-- The escape of a control character is the code of the character. -/
theorem hexCode?_control {n : ℕ} (h : n < 32) :
    hexCode? '0' '0' (Nat.digitChar (n / 16)) (Nat.digitChar (n % 16)) = some n := by
  have hall : ∀ n < 32,
      hexCode? '0' '0' (Nat.digitChar (n / 16)) (Nat.digitChar (n % 16)) = some n := by decide
  exact hall n h

/-- A backslash and one more character are read as the code of the character they stand for. -/
theorem takeCodes?_escaped {mark c : Char} (h : escaped? mark = some c) (rest : List Char) :
    takeCodes? ('\\' :: mark :: rest) = (takeCodes? rest).map fun p => (c.toNat :: p.1, p.2) := by
  have hmark : mark ≠ 'u' := by
    rintro rfl
    cases h
  rw [takeCodes?, h]
  · cases takeCodes? rest <;> rfl
  · exact fun _ _ _ _ _ hu => absurd hu hmark

/-- The written form of a character is read as its code. -/
theorem takeCodes?_escape (c : Char) (rest : List Char) :
    takeCodes? (escape c ++ rest) =
      (takeCodes? rest).map fun p => (c.toNat :: p.1, p.2) := by
  unfold escape
  split
  case h_8 hquote hbackslash _ _ _ _ _ =>
    split
    next hcontrol =>
      simp only [List.cons_append, List.nil_append, takeCodes?, hexCode?_control hcontrol]
      cases takeCodes? rest <;> rfl
    next hprinted =>
      have hplain : ¬(c.toNat < 32 ∨ c = '\\') := by
        simpa [hprinted] using hbackslash
      rw [List.singleton_append, takeCodes?, if_neg hplain]
      · cases takeCodes? rest <;> rfl
      all_goals simp_all
  all_goals exact takeCodes?_escaped rfl rest

/-- The written form of several characters is read as their codes. -/
theorem takeCodes?_flatMap (text rest : List Char) :
    takeCodes? (text.flatMap escape ++ '"' :: rest) = some (text.map Char.toNat, rest) := by
  induction text with
  | nil => rfl
  | cons c text ih =>
    rw [List.flatMap_cons, List.append_assoc, takeCodes?_escape, ih]
    rfl

/-- The code of a character is no half of a surrogate pair. -/
theorem toNat_not_surrogate (c : Char) :
    isHighSurrogate c.toNat = false ∧ isLowSurrogate c.toNat = false := by
  have hvalid : c.toNat < 0xD800 ∨ 0xDFFF < c.toNat ∧ c.toNat < 0x110000 := c.valid
  constructor
  · simp only [isHighSurrogate, Bool.and_eq_false_iff, decide_eq_false_iff_not]
    omega
  · simp only [isLowSurrogate, Bool.and_eq_false_iff, decide_eq_false_iff_not]
    omega

/-- The codes of characters are those characters. -/
theorem pairCodes?_map (text : List Char) : pairCodes? (text.map Char.toNat) = some text := by
  induction text with
  | nil => rfl
  | cons c text ih =>
    obtain ⟨hhigh, hlow⟩ := toNat_not_surrogate c
    cases text with
    | nil => simp [pairCodes?, hhigh, hlow]
    | cons next more =>
      rw [List.map_cons, List.map_cons, pairCodes?, hhigh, hlow, ← List.map_cons, ih]
      simp

/-- A written text is read, from behind its opening quote, up to its closing quote. -/
theorem takeText_escape (text : String) (rest : List Char) :
    takeText (text.toList.flatMap escape ++ '"' :: rest) = (.text text, some rest) := by
  simp only [takeText, takeCodes?_flatMap, pairCodes?_map, String.ofList_toList]

end SchemaForge.Document.Json
