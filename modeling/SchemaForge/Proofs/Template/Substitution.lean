import SchemaForge.Proofs.Template.Token
import SchemaForge.Proofs.Text.Camel
import SchemaForge.Template.Placeholder

/-!
# Putting values in the places of tokens

Both ways to fill a template go through the tokens of its text: `substitute` by definition, and
`fill`, which searches for one placeholder only, because no occurrence of a placeholder overlaps a
token (`replaceAll_token`). `resolved` is what both make of a text. It keeps a sealed text
(`resolved_sealed_append`), looks at a token once (`resolved_token_append`), and never reads what it
has put in.
-/

namespace SchemaForge.Template

/-- A text with values in the places of its tokens. -/
def resolved (values : List (Placeholder × String)) (text : List Char) : List Char :=
  (scan text).flatMap fun
    | .character c => [c]
    | .token t => resolveToken values t

/-- Filling several placeholders is resolving the tokens of the text. -/
theorem toList_substitute (text : String) (values : List (Placeholder × String)) :
    (substitute text values).toList = resolved values text.toList :=
  String.toList_ofList

/-- Nothing becomes of the empty text. -/
theorem resolved_nil (values : List (Placeholder × String)) : resolved values [] = [] := rfl

/-- A sealed text stays as it is. -/
theorem resolved_sealed_append (values : List (Placeholder × String)) {text : List Char}
    (h : Sealed text) (rest : List Char) :
    resolved values (text ++ rest) = text ++ resolved values rest := by
  rw [resolved, scan_sealed_append h, List.flatMap_append, List.flatMap_map]
  simp [resolved]

/-- A sealed text that nothing follows stays as it is. -/
theorem resolved_sealed (values : List (Placeholder × String)) {text : List Char}
    (h : Sealed text) : resolved values text = text := by
  have := resolved_sealed_append values h []
  rwa [List.append_nil, resolved_nil, List.append_nil] at this

/-- A token becomes its value. -/
theorem resolved_token_append (values : List (Placeholder × String)) {t : List Char}
    (h : IsToken t) (rest : List Char) :
    resolved values (t ++ rest) = resolveToken values t ++ resolved values rest := by
  rw [resolved, scan_token_append h, List.flatMap_cons, resolved]

/-- A character where no token starts stays as it is. -/
theorem resolved_cons (values : List (Placeholder × String)) {c : Char} {rest : List Char}
    (h : tokenAt? (c :: rest) = none) :
    resolved values (c :: rest) = c :: resolved values rest := by
  rw [resolved, scan_cons h, List.flatMap_cons, resolved]
  rfl

/-- A plain text is sealed: it has no braces. -/
theorem sealed_plain {text : List Char} (h : ∀ c ∈ text, Text.IsPlain c) : Sealed text := by
  apply sealed_of_no_opening
  rintro ⟨front, back, heq⟩
  have hbrace : '{' ∉ text := fun hin => (h '{' hin).ne '{' (by decide) rfl
  have hcount := congrArg (List.count '{') heq
  simp only [List.count_append, List.count_eq_zero_of_not_mem hbrace] at hcount
  simp at hcount
  omega

/-- Two sealed texts in a row are sealed. -/
theorem sealed_toList_append {a b : String} (ha : Sealed a.toList) (hb : Sealed b.toList) :
    Sealed (a ++ b).toList := by
  rw [String.toList_append]
  exact ha.append hb

/-- The written form of a placeholder is a token. -/
theorem Placeholder.isToken_token (p : Placeholder) : IsToken p.token := by
  have h : tokenAt? p.token = some p.token := by cases p <;> decide
  exact (tokenAt?_eq_some_iff.mp h).1

/-- Passing over characters that are already replaced. -/
theorem replaceFrom_eq_replaceAll_drop (pattern value : List Char) (skip : ℕ) (text : List Char) :
    Text.replaceFrom pattern value skip text = Text.replaceAll pattern value (text.drop skip) := by
  induction skip generalizing text with
  | zero => rfl
  | succ n ih =>
    cases text with
    | nil => simp [Text.replaceFrom, Text.replaceAll]
    | cons c rest => rw [Text.replaceFrom, List.drop_succ_cons, ih]

/-- A character where the pattern does not occur stays as it is. -/
theorem replaceAll_cons {pattern : List Char} (value : List Char) {c : Char} {rest : List Char}
    (h : ¬pattern <+: c :: rest) :
    Text.replaceAll pattern value (c :: rest) = c :: Text.replaceAll pattern value rest := by
  have h' : ¬pattern.isPrefixOf (c :: rest) = true := fun hp => h (List.isPrefixOf_iff_prefix.mp hp)
  simp only [Text.replaceAll, Text.replaceFrom, if_neg h']

/-- The pattern at the start of a text is replaced. -/
theorem replaceAll_append {pattern : List Char} (value : List Char) (hne : pattern ≠ [])
    (rest : List Char) :
    Text.replaceAll pattern value (pattern ++ rest) =
      value ++ Text.replaceAll pattern value rest := by
  obtain ⟨c, p, rfl⟩ := List.exists_cons_of_ne_nil hne
  have h : (c :: p).isPrefixOf (c :: (p ++ rest)) = true :=
    List.isPrefixOf_iff_prefix.mpr (List.prefix_append (c :: p) rest)
  rw [List.cons_append, Text.replaceAll, Text.replaceFrom, if_pos h,
    replaceFrom_eq_replaceAll_drop]
  simp

/-- A placeholder does not occur where no token starts. -/
theorem not_prefix_of_tokenAt? {p : Placeholder} {text : List Char} (h : tokenAt? text = none) :
    ¬p.token <+: text := by
  intro hp
  rw [tokenAt?_eq_some_iff.mpr ⟨p.isToken_token, hp⟩] at h
  cases h

/-- The search for a placeholder passes over the rest of a token that it has not found. -/
theorem replaceAll_token_suffix (p : Placeholder) (value : List Char) {a s : List Char}
    (h : IsToken (a ++ s)) (ha : a ≠ []) (rest : List Char) :
    Text.replaceAll p.token value (s ++ rest) = s ++ Text.replaceAll p.token value rest := by
  induction s generalizing a with
  | nil => rfl
  | cons c s ih =>
    have hnone : tokenAt? (c :: (s ++ rest)) = none := h.tokenAt?_suffix ha (by simp) rest
    rw [List.cons_append, replaceAll_cons value (not_prefix_of_tokenAt? hnone)]
    rw [ih (a := a ++ [c]) (by simpa using h) (by simp), List.cons_append]

/-- Plain search for a placeholder and one pass over all tokens come to the same. -/
theorem replaceAll_token (p : Placeholder) (value : String) (text : List Char) :
    Text.replaceAll p.token value.toList text = resolved [(p, value)] text := by
  have hne : p.token ≠ [] := by simp [Placeholder.token]
  induction text using scan_induction with
  | nil => rfl
  | character c rest hnone ih =>
    rw [replaceAll_cons _ (not_prefix_of_tokenAt? hnone), resolved_cons _ hnone, ih]
  | token t rest ht ih =>
    rw [resolved_token_append _ ht, ← ih]
    by_cases heq : p.token = t
    · subst heq
      rw [replaceAll_append _ hne]
      simp [resolveToken]
    · have hkeep : resolveToken [(p, value)] t = t := by simp [resolveToken, heq]
      obtain ⟨d, body, -, hbraces⟩ := ht.eq_braces
      obtain ⟨c, s, rfl⟩ : ∃ c s, t = c :: s := ⟨'{', _, hbraces⟩
      have hother : ¬p.token <+: c :: (s ++ rest) := by
        intro hp
        have h1 := tokenAt?_eq_some_iff.mpr ⟨p.isToken_token, hp⟩
        have h2 := tokenAt?_append ht rest
        rw [List.cons_append, h1] at h2
        exact heq (Option.some.inj h2)
      rw [hkeep, List.cons_append, replaceAll_cons _ hother,
        replaceAll_token_suffix p value.toList (a := [c]) (by simpa using ht) (by simp)]
      rfl

/-- Filling one placeholder is resolving the tokens of the text. -/
theorem toList_fill (text : String) (p : Placeholder) (value : String) :
    (fill text p value).toList = resolved [(p, value)] text.toList := by
  rw [fill, String.toList_ofList, replaceAll_token]

/-- A sealed text has no tokens left. -/
theorem ensureResolved_of_sealed (name : String) {text : String} (h : Sealed text.toList) :
    ensureResolved name text = .ok () := by
  have hscan : scan text.toList = text.toList.map .character := by
    have := scan_sealed_append h []
    rwa [List.append_nil, scan_nil, List.append_nil] at this
  have hnone : unresolved text = [] := by
    simp [unresolved, tokens, hscan]
  simp [ensureResolved, hnone]

end SchemaForge.Template
