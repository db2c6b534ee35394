import SchemaForge.Proofs.Template.Substitution

/-!
# Tokens that are left over

A pass over a text keeps every token that it has no value for (`infix_resolved`), whatever it puts
in around it, and the scan of the text that comes out lists every token in it (`mem_tokens`). So a
check that finds no token left over says which tokens the text had before the pass: only those of
the placeholders that the pass has values for (`exists_placeholder_of_resolved`).

Both rest on the shape of a token, which has braces at its ends only: where a token begins, or might
begin if the text went on, none is under way (`scan_append_of_opens`).
-/

namespace SchemaForge.Template

variable {values : List (Placeholder × String)} {a t text : List Char}

/-! ## The scan of two texts in a row -/

/-- A token that starts in the first of two texts and runs into the second leaves no room for a
token at the start of the second, however that goes on. -/
theorem tokenAt?_append_of_opens {c : Char} {text rest : List Char}
    (hnone : tokenAt? (c :: text) = none) (hopens : ∃ more, tokenAt? (rest ++ more) ≠ none) :
    tokenAt? (c :: (text ++ rest)) = none := by
  by_contra hsome
  obtain ⟨t, ht⟩ := Option.ne_none_iff_exists'.mp hsome
  obtain ⟨htoken, hpre⟩ := isToken_of_tokenAt? ht
  obtain ⟨more, hmore⟩ := hopens
  rw [← List.cons_append] at hpre
  rcases List.prefix_or_prefix_of_prefix hpre (List.prefix_append (c :: text) rest) with
    hwithin | ⟨tail, rfl⟩
  · -- The token ends in the first text, where none was found.
    rw [tokenAt?_eq_some_iff.mpr ⟨htoken, hwithin⟩] at hnone
    cases hnone
  · obtain ⟨beyond, rfl⟩ : tail <+: rest := (List.prefix_append_right_inj _).mp hpre
    cases tail with
    | nil =>
      rw [List.append_nil] at htoken
      rw [tokenAt?_eq_some_iff.mpr ⟨htoken, List.prefix_rfl⟩] at hnone
      cases hnone
    | cons d tail =>
      -- The second text starts with the end of the token, and no token starts there.
      apply hmore
      rw [List.append_assoc]
      exact htoken.tokenAt?_suffix (by simp) (by simp) (beyond ++ more)

/-- The scan of two texts in a row scans them one after the other if a token starts with the second,
or would start with it if it went on. -/
theorem scan_append_of_opens {rest : List Char} (h : ∃ more, tokenAt? (rest ++ more) ≠ none)
    (text : List Char) : scan (text ++ rest) = scan text ++ scan rest := by
  induction text using scan_induction with
  | nil => rfl
  | character c text hnone ih =>
    rw [List.cons_append, scan_cons (tokenAt?_append_of_opens hnone h), scan_cons hnone, ih,
      List.cons_append]
  | token t text ht ih =>
    rw [List.append_assoc, scan_token_append ht, scan_token_append ht, ih, List.cons_append]

/-- The scan stops before a token and goes on behind it. -/
theorem scan_append_token (ht : IsToken t) (text rest : List Char) :
    scan (text ++ (t ++ rest)) = scan text ++ .token t :: scan rest := by
  have hopens : ∃ more, tokenAt? (t ++ rest ++ more) ≠ none := by
    refine ⟨[], ?_⟩
    rw [List.append_nil, tokenAt?_append ht]
    exact Option.some_ne_none t
  rw [scan_append_of_opens hopens, scan_token_append ht]

/-- What becomes of two texts in a row if a token starts with the second, or would start with it if
it went on. -/
theorem resolved_append_of_opens (values : List (Placeholder × String)) {rest : List Char}
    (h : ∃ more, tokenAt? (rest ++ more) ≠ none) (text : List Char) :
    resolved values (text ++ rest) = resolved values text ++ resolved values rest := by
  rw [resolved, scan_append_of_opens h, List.flatMap_append]
  rfl

/-- What becomes of a text with a token in it. -/
theorem resolved_append_token (values : List (Placeholder × String)) (ht : IsToken t)
    (text rest : List Char) : resolved values (text ++ (t ++ rest)) =
      resolved values text ++ (resolveToken values t ++ resolved values rest) := by
  rw [resolved, scan_append_token ht, List.flatMap_append, List.flatMap_cons]
  rfl

/-! ## The tokens of a text -/

/-- A character where no token starts adds none. -/
theorem tokens_cons {c : Char} {rest : List Char} (h : tokenAt? (c :: rest) = none) :
    tokens (c :: rest) = tokens rest := by
  rw [tokens, scan_cons h]
  rfl

/-- A token comes between the tokens before it and those behind it. -/
theorem tokens_append_token (ht : IsToken t) (text rest : List Char) :
    tokens (text ++ (t ++ rest)) = tokens text ++ t :: tokens rest := by
  rw [tokens, scan_append_token ht, List.filterMap_append]
  rfl

/-- A token at the start comes first. -/
theorem tokens_token_append (ht : IsToken t) (rest : List Char) :
    tokens (t ++ rest) = t :: tokens rest :=
  tokens_append_token ht [] rest

/-- The tokens of a text are all the tokens that stand in it. -/
theorem mem_tokens : t ∈ tokens text ↔ IsToken t ∧ t <:+: text := by
  constructor
  · intro h
    induction text using scan_induction with
    | nil => cases h
    | character c rest hnone ih =>
      rw [tokens_cons hnone] at h
      exact ⟨(ih h).1, List.infix_cons (ih h).2⟩
    | token u rest hu ih =>
      rw [tokens_token_append hu, List.mem_cons] at h
      rcases h with rfl | h
      · exact ⟨hu, (List.prefix_append t rest).isInfix⟩
      · exact ⟨(ih h).1, (ih h).2.trans (List.suffix_append u rest).isInfix⟩
  · -- The scan cannot miss a token: what it reads before it ends where the token starts.
    rintro ⟨ht, front, rest, rfl⟩
    rw [List.append_assoc, tokens_append_token ht]
    simp

/-- A text has a token exactly when its scan lists one. -/
theorem hasToken_iff_tokens_ne_nil : HasToken text ↔ tokens text ≠ [] := by
  constructor
  · rintro ⟨t, ht, hin⟩
    exact List.ne_nil_of_mem (mem_tokens.mpr ⟨ht, hin⟩)
  · intro h
    obtain ⟨t, ht⟩ := List.exists_mem_of_ne_nil _ h
    exact ⟨t, mem_tokens.mp ht⟩

/-- The check passes exactly the texts without a token. -/
theorem ensureResolved_eq_ok_iff {name text : String} {u : Unit} :
    ensureResolved name text = .ok u ↔ ¬HasToken text.toList := by
  have hdups : (tokens text.toList).eraseDups = [] ↔ tokens text.toList = [] := by
    cases tokens text.toList with
    | nil => simp
    | cons t rest => simp [List.eraseDups_cons]
  rw [hasToken_iff_tokens_ne_nil, not_not, ensureResolved, unresolved, ← hdups]
  cases (tokens text.toList).eraseDups with
  | nil => simp
  | cons t rest => simp

/-! ## Tokens that a pass keeps -/

/-- A token that no listed placeholder has stays as it is. -/
theorem resolveToken_of_notMem (h : ∀ v ∈ values, v.1.token ≠ t) : resolveToken values t = t := by
  have hnone : (values.find? fun v => v.1.token == t) = none :=
    List.find?_eq_none.mpr fun v hv heq => h v hv (eq_of_beq heq)
  rw [resolveToken, hnone]

/-- A text stays as it is if the pass keeps every token of it. -/
theorem resolved_eq_self (h : ∀ t ∈ tokens text, resolveToken values t = t) :
    resolved values text = text := by
  induction text using scan_induction with
  | nil => rfl
  | character c rest hnone ih =>
    rw [tokens_cons hnone] at h
    rw [resolved_cons values hnone, ih h]
  | token t rest ht ih =>
    rw [tokens_token_append ht] at h
    obtain ⟨hkeep, hrest⟩ := List.forall_mem_cons.mp h
    rw [resolved_token_append values ht, hkeep, ih hrest]

/-- A token that a pass keeps is in the text that comes out. -/
theorem infix_resolved (hkeep : resolveToken values t = t) (ht : IsToken t) (h : t <:+: text) :
    t <:+: resolved values text := by
  obtain ⟨front, rest, rfl⟩ := h
  rw [List.append_assoc, resolved_append_token values ht, hkeep]
  exact ⟨resolved values front, resolved values rest, by simp⟩

/-- When no token is left over, every token that the text had is that of a placeholder with a
value. -/
theorem exists_placeholder_of_resolved (h : ¬HasToken (resolved values text)) (ht : IsToken t)
    (hin : t <:+: text) : ∃ v ∈ values, v.1.token = t := by
  by_contra hunlisted
  push Not at hunlisted
  exact h ⟨t, ht, infix_resolved (resolveToken_of_notMem hunlisted) ht hin⟩

end SchemaForge.Template
