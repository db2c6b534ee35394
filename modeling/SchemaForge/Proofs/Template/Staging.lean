import SchemaForge.Proofs.Template.Leftover

/-!
# Filling a template in two passes

A template that is filled in two passes is read a second time with the values of the first pass in
it. The second pass finds every token that the first has kept (`kept`), and if it finds no other
one, the two passes come to a single pass with all values (`resolved_staged`). A token that it finds
besides them is one that a value of the first pass has made, on its own or together with the text
around it.

With such a token the two orders to fill two slots differ: it is filled if its slot comes second,
and left over if it comes first (`exists_infix_of_kept_lt`, `infix_resolved_staged`). So a template
that leaves nothing over in either order has none (`resolved_staged_of_both_orders`).

The proofs go through the text from left to right. They keep in `front` what the first pass has
written since the last token that it kept, because the second pass reads that as one text.
-/

namespace SchemaForge.Template

variable {values : List (Placeholder × String)} {p q : Placeholder} {front t text : List Char}

/-! ## Tokens that the first pass keeps -/

/-- A token that is listed early has the same value in a longer list. -/
theorem resolveToken_append_of_mem (h : ∃ v ∈ values, v.1.token = t)
    (later : List (Placeholder × String)) :
    resolveToken (values ++ later) t = resolveToken values t := by
  obtain ⟨v, hv, htoken⟩ := h
  have hsome : (values.find? fun v => v.1.token == t).isSome = true :=
    List.find?_isSome.mpr ⟨v, hv, beq_iff_eq.mpr htoken⟩
  rw [resolveToken, resolveToken, List.find?_append, Option.or_of_isSome hsome]

/-- A token that is not listed early has the value that is listed later. -/
theorem resolveToken_append_of_notMem (h : ∀ v ∈ values, v.1.token ≠ t)
    (later : List (Placeholder × String)) :
    resolveToken (values ++ later) t = resolveToken later t := by
  have hnone : (values.find? fun v => v.1.token == t) = none :=
    List.find?_eq_none.mpr fun v hv heq => h v hv (eq_of_beq heq)
  rw [resolveToken, resolveToken, List.find?_append, hnone, Option.none_or]

/-- Different placeholders have different tokens. -/
theorem Placeholder.token_injective : Function.Injective Placeholder.token := by
  intro p q
  cases p <;> cases q <;> decide

/-- The tokens of a text that a pass has no value for. -/
def kept (values : List (Placeholder × String)) (text : List Char) : List (List Char) :=
  (tokens text).filter fun t => values.all fun v => v.1.token != t

/-- A character where no token starts is no kept token. -/
theorem kept_cons {c : Char} {rest : List Char} (h : tokenAt? (c :: rest) = none) :
    kept values (c :: rest) = kept values rest := by
  rw [kept, tokens_cons h, kept]

/-- A listed token is not kept. -/
theorem kept_of_mem (ht : IsToken t) (h : ∃ v ∈ values, v.1.token = t) (rest : List Char) :
    kept values (t ++ rest) = kept values rest := by
  rw [kept, tokens_token_append ht, List.filter_cons_of_neg (by simpa using h), kept]

/-- A token that is not listed is kept. -/
theorem kept_of_notMem (ht : IsToken t) (h : ∀ v ∈ values, v.1.token ≠ t) (rest : List Char) :
    kept values (t ++ rest) = t :: kept values rest := by
  rw [kept, tokens_token_append ht, List.filter_cons_of_pos (by simpa using h), kept]

/-- A token that is not listed is kept as often as it is there. -/
theorem count_kept (h : ∀ v ∈ values, v.1.token ≠ t) (text : List Char) :
    (kept values text).count t = (tokens text).count t :=
  List.count_filter (by simpa using h)

/-- To prove something of a text and of what the first pass has written before it, it is enough to
look at a piece that the pass settles, whatever is listed later, and at a token that it keeps. -/
@[elab_as_elim]
theorem staged_induction (values : List (Placeholder × String))
    {motive : List Char → List Char → Prop} (nil : ∀ front, motive front [])
    (settled : ∀ front x y rest, kept values (x ++ rest) = kept values rest →
      (∀ later, resolved (values ++ later) (x ++ rest) = y ++ resolved (values ++ later) rest) →
      motive (front ++ y) rest → motive front (x ++ rest))
    (token : ∀ front t rest, IsToken t → (∀ v ∈ values, v.1.token ≠ t) → motive [] rest →
      motive front (t ++ rest))
    (front text : List Char) : motive front text := by
  induction text using scan_induction generalizing front with
  | nil => exact nil front
  | character c rest hnone ih =>
    exact settled front [c] [c] rest (kept_cons hnone) (fun later => resolved_cons _ hnone) (ih _)
  | token t rest ht ih =>
    -- A listed token is settled like a character; one that is kept starts a new front.
    by_cases hlisted : ∃ v ∈ values, v.1.token = t
    · refine settled front t (resolveToken values t) rest (kept_of_mem ht hlisted rest)
        (fun later => ?_) (ih _)
      rw [resolved_token_append _ ht, resolveToken_append_of_mem hlisted]
    · push Not at hlisted
      exact token front t rest ht hlisted (ih [])

/-- What a piece that a pass settles becomes in that pass alone. -/
theorem resolved_of_settled {x y rest : List Char}
    (h : ∀ later, resolved (values ++ later) (x ++ rest) = y ++ resolved (values ++ later) rest) :
    resolved values (x ++ rest) = y ++ resolved values rest := by
  have := h []
  rwa [List.append_nil] at this

/-- What becomes of a token that a pass keeps. -/
theorem resolved_of_kept (ht : IsToken t) (h : ∀ v ∈ values, v.1.token ≠ t) (rest : List Char) :
    resolved values (t ++ rest) = t ++ resolved values rest := by
  rw [resolved_token_append values ht, resolveToken_of_notMem h]

/-! ## One pass instead of two -/

/-- The second pass finds the tokens that the first has kept, in the same order. -/
theorem kept_sublist (values : List (Placeholder × String)) (front text : List Char) :
    (kept values text).Sublist (tokens (front ++ resolved values text)) := by
  induction front, text using staged_induction values with
  | nil front => exact List.nil_sublist _
  | settled front x y rest hkept hsettled ih =>
    rwa [hkept, resolved_of_settled hsettled, ← List.append_assoc]
  | token front t rest ht hunlisted ih =>
    rw [kept_of_notMem ht hunlisted, resolved_of_kept ht hunlisted, tokens_append_token ht]
    exact (ih.cons_cons t).trans (List.sublist_append_right _ _)

/-- A text without tokens stays as it is. -/
theorem resolved_of_tokens_eq_nil (values : List (Placeholder × String))
    (h : tokens text = []) : resolved values text = text :=
  resolved_eq_self (by simp [h])

/-- Two passes come to one when the second finds no tokens but those that the first has kept. -/
theorem resolved_staged (front : List Char) (later : List (Placeholder × String))
    (h : (tokens (front ++ resolved values text)).length ≤ (kept values text).length) :
    resolved later (front ++ resolved values text) =
      front ++ resolved (values ++ later) text := by
  induction front, text using staged_induction values with
  | nil front =>
    have hnone : tokens front = [] := by simpa [resolved_nil, kept, tokens, scan_nil] using h
    rw [resolved_nil, resolved_nil, List.append_nil, resolved_of_tokens_eq_nil later hnone]
  | settled front x y rest hkept hsettled ih =>
    rw [hkept, resolved_of_settled hsettled, ← List.append_assoc] at h
    rw [resolved_of_settled hsettled, hsettled, ← List.append_assoc, ih h, List.append_assoc]
  | token front t rest ht hunlisted ih =>
    rw [kept_of_notMem ht hunlisted, resolved_of_kept ht hunlisted, tokens_append_token ht,
      List.length_append, List.length_cons, List.length_cons] at h
    have hle := (kept_sublist values [] rest).length_le
    rw [List.nil_append] at hle ih
    -- The tokens behind this one are enough already, so there is none before it.
    have hnone : tokens front = [] := List.eq_nil_of_length_eq_zero (by omega)
    rw [resolved_of_kept ht hunlisted, resolved_append_token later ht,
      resolved_of_tokens_eq_nil later hnone, ih (by omega), List.nil_append,
      resolved_token_append _ ht, resolveToken_append_of_notMem hunlisted]

/-- Two passes come to one when the second finds each of its tokens as often as the first has kept
it. -/
theorem resolved_staged_of_count (later : List (Placeholder × String))
    (h : ∀ t ∈ tokens (resolved values text),
      (tokens (resolved values text)).count t = (kept values text).count t) :
    resolved later (resolved values text) = resolved (values ++ later) text := by
  have hsublist : (kept values text).Sublist (tokens (resolved values text)) :=
    kept_sublist values [] text
  have hperm : (tokens (resolved values text)).Perm (kept values text) := by
    rw [List.perm_iff_count]
    intro t
    by_cases ht : t ∈ tokens (resolved values text)
    · exact h t ht
    · have hkept : t ∉ kept values text := fun hin => ht (hsublist.subset hin)
      rw [List.count_eq_zero_of_not_mem ht, List.count_eq_zero_of_not_mem hkept]
  exact resolved_staged [] later hperm.length_eq.le

/-- If the second pass finds more tokens than the first has kept, a single pass with all values
leaves one of them over. -/
theorem exists_infix_of_kept_lt (front : List Char) (later : List (Placeholder × String))
    (h : (kept values text).length < (tokens (front ++ resolved values text)).length) :
    ∃ t ∈ tokens (front ++ resolved values text),
      t <:+: front ++ resolved (values ++ later) text := by
  induction front, text using staged_induction values with
  | nil front =>
    rw [resolved_nil, List.append_nil] at h ⊢
    obtain ⟨t, ht⟩ := List.exists_mem_of_length_pos (Nat.zero_lt_of_lt h)
    exact ⟨t, ht, (mem_tokens.mp ht).2.trans (List.prefix_append front _).isInfix⟩
  | settled front x y rest hkept hsettled ih =>
    rw [hkept, resolved_of_settled hsettled, ← List.append_assoc] at h
    rw [resolved_of_settled hsettled, hsettled, ← List.append_assoc, ← List.append_assoc]
    exact ih h
  | token front t rest ht hunlisted ih =>
    rw [kept_of_notMem ht hunlisted] at h
    rw [resolved_of_kept ht hunlisted, tokens_append_token ht] at h ⊢
    rw [List.length_append, List.length_cons, List.length_cons] at h
    -- What is found besides the kept token stands before it or behind it.
    by_cases hfront : tokens front = []
    · rw [hfront, List.length_nil] at h
      obtain ⟨u, hu, hin⟩ := ih (by rw [List.nil_append]; omega)
      rw [List.nil_append] at hu hin
      refine ⟨u, List.mem_append_right _ (List.mem_cons_of_mem t hu), hin.trans ?_⟩
      rw [resolved_token_append _ ht, ← List.append_assoc]
      exact (List.suffix_append _ _).isInfix
    · obtain ⟨u, hu⟩ := List.exists_mem_of_ne_nil _ hfront
      exact ⟨u, List.mem_append_left _ hu,
        (mem_tokens.mp hu).2.trans (List.prefix_append front _).isInfix⟩

/-! ## The other order -/

/-- No token is in a part of a token. -/
theorem IsToken.tokens_left {s r : List Char} (h : IsToken (s ++ r)) (hr : r ≠ []) :
    tokens s = [] := by
  by_contra hne
  obtain ⟨u, hu⟩ := List.exists_mem_of_ne_nil _ hne
  obtain ⟨htoken, x, y, rfl⟩ := mem_tokens.mp hu
  have hfind : tokenAt? (u ++ (y ++ r)) = some u := tokenAt?_append htoken _
  -- A token at the start would be the whole one, and no token starts further on.
  cases x with
  | nil =>
    have hwhole := tokenAt?_append h []
    rw [List.append_nil, List.nil_append, List.append_assoc, hfind] at hwhole
    have hlength := congrArg List.length (Option.some.inj hwhole)
    simp only [List.length_append] at hlength
    have := List.length_pos_of_ne_nil hr
    omega
  | cons c x =>
    have hnone := IsToken.tokenAt?_suffix (a := c :: x) (s := u ++ (y ++ r)) (by simpa using h)
      (by simp) (by simp [hr]) []
    rw [List.append_nil, hfind] at hnone
    cases hnone

/-- The end of a token is sealed. -/
theorem IsToken.sealed_right {s r : List Char} (h : IsToken (s ++ r)) (hs : s ≠ []) : Sealed r := by
  rintro x rest hx ⟨y, rfl⟩
  exact IsToken.tokenAt?_suffix (a := s ++ y) (by simpa using h) (by simp [hs]) hx rest

/-- The end of a sealed text is sealed. -/
theorem Sealed.right {x y : List Char} (h : Sealed (x ++ y)) : Sealed y :=
  fun s rest hs hsuffix => h s rest hs (hsuffix.trans (List.suffix_append x y))

/-- A sealed text has no token, and neither has its start. -/
theorem Sealed.tokens_left {x y : List Char} (h : Sealed (x ++ y)) : tokens x = [] := by
  by_contra hne
  obtain ⟨u, hu⟩ := List.exists_mem_of_ne_nil _ hne
  obtain ⟨htoken, a, b, rfl⟩ := mem_tokens.mp hu
  have hnone := h (u ++ b ++ y) [] (by obtain ⟨d, body, -, rfl⟩ := htoken.eq_braces; simp)
    ⟨a, by simp⟩
  rw [List.append_nil, List.append_assoc, tokenAt?_append htoken] at hnone
  cases hnone

/-- A token is cleared. -/
theorem resolveToken_clear (q : Placeholder) : resolveToken [(q, "")] q.token = [] := by
  simp [resolveToken]

/-- A sealed start of a text that is filled in one pass, with a slot cleared, is there as well if the
slot is cleared in a second pass. -/
theorem prefix_resolved_staged (front : List Char) {r : List Char} (hr : Sealed r)
    (h : r <+: front ++ resolved (values ++ [(q, "")]) text) :
    r <+: resolved [(q, "")] (front ++ resolved values text) := by
  -- A sealed text that starts the front is kept with it.
  have hwithin : ∀ front rest, r <+: front → r <+: resolved [(q, "")] (front ++ rest) := by
    rintro front rest ⟨more, rfl⟩
    rw [List.append_assoc, resolved_sealed_append _ hr]
    exact List.prefix_append r _
  induction front, text using staged_induction values generalizing r with
  | nil front =>
    rw [resolved_nil, List.append_nil] at h
    exact hwithin front _ h
  | settled front x y rest hkept hsettled ih =>
    rw [hsettled, ← List.append_assoc] at h
    rw [resolved_of_settled hsettled, ← List.append_assoc]
    exact ih hr h hwithin
  | token front t rest ht hunlisted ih =>
    rw [resolved_token_append _ ht, resolveToken_append_of_notMem hunlisted] at h
    rw [resolved_of_kept ht hunlisted]
    -- If the sealed text goes beyond the front, only a cleared token can stand at its border.
    rcases List.prefix_or_prefix_of_prefix h (List.prefix_append front _) with hin | ⟨beyond, rfl⟩
    · exact hwithin front _ hin
    · have hbeyond := (List.prefix_append_right_inj front).mp h
      rw [resolved_append_token _ ht, resolved_of_tokens_eq_nil _ hr.tokens_left,
        List.prefix_append_right_inj]
      by_cases hslot : t = q.token
      · subst hslot
        rw [resolveToken_clear, List.nil_append] at hbeyond ⊢
        have hsealed : Sealed beyond := hr.right
        refine ih hsealed hbeyond ?_
        rintro front rest ⟨more, rfl⟩
        rw [List.append_assoc, resolved_sealed_append _ hsealed]
        exact List.prefix_append beyond _
      · -- The token would start inside the sealed text.
        have hkeep : resolveToken [(q, "")] t = t :=
          resolveToken_of_notMem (by simpa using fun h => hslot h.symm)
        rw [hkeep] at hbeyond
        cases beyond with
        | nil => exact List.nil_prefix
        | cons c beyond =>
          obtain ⟨more, hmore⟩ := hbeyond
          have hnone := hr (c :: beyond) more (by simp) (List.suffix_append front _)
          rw [hmore, tokenAt?_append ht] at hnone
          cases hnone

/-- The start of a token that ends a text is there after a pass. -/
theorem suffix_resolved (values : List (Placeholder × String)) {s r : List Char}
    (ht : IsToken (s ++ r)) (hr : r ≠ []) (h : s <:+ text) :
    s <:+ resolved values text := by
  have hopens : ∃ more, tokenAt? (s ++ more) ≠ none := by
    refine ⟨r, ?_⟩
    rw [← List.append_nil (s ++ r), tokenAt?_append ht]
    exact Option.some_ne_none _
  obtain ⟨before, rfl⟩ := h
  rw [resolved_append_of_opens values hopens, resolved_of_tokens_eq_nil _ (ht.tokens_left hr)]
  exact List.suffix_append _ s

/-- A token that is left over when a text is filled in one pass, with a slot cleared, is left over as
well if the slot is cleared in a second pass. -/
theorem infix_resolved_staged (front : List Char) (ht : IsToken t) (hne : t ≠ q.token)
    (h : t <:+: front ++ resolved (values ++ [(q, "")]) text) :
    t <:+: resolved [(q, "")] (front ++ resolved values text) := by
  have hkeep : ∀ u, u ≠ q.token → resolveToken [(q, "")] u = u := fun u hu =>
    resolveToken_of_notMem (by simpa using hu.symm)
  induction front, text using staged_induction values with
  | nil front =>
    rw [resolved_nil, List.append_nil] at h ⊢
    exact infix_resolved (hkeep t hne) ht h
  | settled front x y rest hkept hsettled ih =>
    rw [hsettled, ← List.append_assoc] at h
    rw [resolved_of_settled hsettled, ← List.append_assoc]
    exact ih h
  | token front u rest hu hunlisted ih =>
    rw [resolved_token_append _ hu, resolveToken_append_of_notMem hunlisted] at h
    rw [resolved_of_kept hu hunlisted, resolved_append_token _ hu]
    rw [List.nil_append, List.nil_append] at ih
    have hleft : t <:+: front → t <:+: resolved [(q, "")] front ++
        (resolveToken [(q, "")] u ++ resolved [(q, "")] (resolved values rest)) := fun hin =>
      (infix_resolved (hkeep t hne) ht hin).trans (List.prefix_append _ _).isInfix
    have hright : t <:+: resolved (values ++ [(q, "")]) rest → t <:+: resolved [(q, "")] front ++
        (resolveToken [(q, "")] u ++ resolved [(q, "")] (resolved values rest)) := fun hin => by
      rw [← List.append_assoc]
      exact (ih hin).trans (List.suffix_append _ _).isInfix
    by_cases hslot : u = q.token
    · subst hslot
      rw [resolveToken_clear, List.nil_append] at h hleft hright ⊢
      rcases List.infix_append_iff.mp h with hin | hin | ⟨s, r, rfl, hs, hr⟩
      · exact hleft hin
      · exact hright hin
      · -- The token runs over the place of the cleared slot.
        by_cases hs' : s = []
        · subst hs'
          exact hright hr.isInfix
        by_cases hr' : r = []
        · subst hr'
          rw [List.append_nil] at hleft ⊢
          exact hleft hs.isInfix
        obtain ⟨before, hbefore⟩ := suffix_resolved [(q, "")] ht hr' hs
        obtain ⟨after, hafter⟩ := prefix_resolved_staged [] (ht.sealed_right hs') hr
        rw [List.nil_append] at hafter
        exact ⟨before, after, by rw [← hbefore, ← hafter]; simp⟩
    · -- The token stays, so whatever is left over is before it, behind it, or the token itself.
      rw [hkeep u hslot] at h hleft hright ⊢
      have hmem := mem_tokens.mpr ⟨ht, h⟩
      rw [tokens_append_token hu, List.mem_append, List.mem_cons] at hmem
      rcases hmem with hin | rfl | hin
      · exact hleft (mem_tokens.mp hin).2
      · exact ⟨_, _, List.append_assoc _ _ _⟩
      · exact hright (mem_tokens.mp hin).2

/-- Two values of different placeholders can be listed in either order. -/
theorem resolved_swap (hne : p ≠ q) (values : List (Placeholder × String)) (x y : String)
    (text : List Char) : resolved (values ++ [(p, x)] ++ [(q, y)]) text =
      resolved (values ++ [(q, y)] ++ [(p, x)]) text := by
  have htoken : ∀ t, resolveToken (values ++ [(p, x)] ++ [(q, y)]) t =
      resolveToken (values ++ [(q, y)] ++ [(p, x)]) t := by
    intro t
    rw [List.append_assoc, List.append_assoc]
    by_cases hlisted : ∃ v ∈ values, v.1.token = t
    · rw [resolveToken_append_of_mem hlisted, resolveToken_append_of_mem hlisted]
    · push Not at hlisted
      rw [resolveToken_append_of_notMem hlisted, resolveToken_append_of_notMem hlisted]
      by_cases hp : p.token = t
      · have hq : q.token ≠ t := fun h => hne (Placeholder.token_injective (hp.trans h.symm))
        simp [resolveToken, hp, hq]
      · by_cases hq : q.token = t
        · simp [resolveToken, hp, hq]
        · simp [resolveToken, hp, hq]
  rw [resolved, resolved]
  congr 1
  funext piece
  cases piece with
  | character c => rfl
  | token t => exact htoken t

/-- When nothing is left over, in whichever order two slots are cleared, filling one of them after
the other is cleared comes to a single pass. -/
theorem resolved_staged_of_both_orders (hne : p ≠ q)
    (hlast : ¬HasToken (resolved [(p, "")] (resolved (values ++ [(q, "")]) text)))
    (hfirst : ¬HasToken (resolved [(q, "")] (resolved (values ++ [(p, "")]) text)))
    (value : String) : resolved [(p, value)] (resolved (values ++ [(q, "")]) text) =
      resolved (values ++ [(q, "")] ++ [(p, value)]) text := by
  refine resolved_staged [] [(p, value)] ?_
  by_contra hmore
  -- A token that the second pass finds besides the kept ones is that of the slot it fills.
  obtain ⟨t, ht, hin⟩ := exists_infix_of_kept_lt [] [(p, "")] (Nat.lt_of_not_le hmore)
  rw [List.nil_append] at ht hin
  obtain ⟨htoken, hthere⟩ := mem_tokens.mp ht
  obtain ⟨v, hv, rfl⟩ := exists_placeholder_of_resolved hlast htoken hthere
  obtain rfl : v = (p, "") := by simpa using hv
  -- In the other order that token is left over.
  rw [resolved_swap hne.symm] at hin
  have hdifferent : p.token ≠ q.token := fun h => hne (Placeholder.token_injective h)
  exact hfirst ⟨p.token, htoken, infix_resolved_staged [] htoken hdifferent hin⟩

/-! ## How often a token is filled -/

/-- Without values nothing is filled. -/
theorem resolved_no_values (text : List Char) : resolved [] text = text :=
  resolved_eq_self fun _ _ => rfl

/-- Every token of a placeholder that a pass fills takes the characters of the token from the text
and puts those of the value in. -/
theorem count_resolved (c : Char) (hp : ∀ v ∈ values, v.1.token ≠ p.token) (value : String)
    (text : List Char) :
    (resolved (values ++ [(p, value)]) text).count c +
        (tokens text).count p.token * p.token.count c =
      (resolved values text).count c + (tokens text).count p.token * value.toList.count c := by
  induction text using scan_induction with
  | nil => simp [resolved_nil, tokens, scan_nil]
  | character d rest hnone ih =>
    rw [resolved_cons _ hnone, resolved_cons _ hnone, tokens_cons hnone, List.count_cons,
      List.count_cons]
    omega
  | token t rest ht ih =>
    rw [resolved_token_append _ ht, resolved_token_append _ ht, tokens_token_append ht,
      List.count_append, List.count_append]
    by_cases hslot : t = p.token
    · -- This token is filled: its own characters go and those of the value come.
      subst hslot
      have hvalue : resolveToken [(p, value)] p.token = value.toList := by simp [resolveToken]
      rw [resolveToken_append_of_notMem hp, resolveToken_of_notMem hp, hvalue, List.count_cons_self,
        Nat.succ_mul, Nat.succ_mul]
      omega
    · have hsame : resolveToken (values ++ [(p, value)]) t = resolveToken values t := by
        by_cases hlisted : ∃ v ∈ values, v.1.token = t
        · exact resolveToken_append_of_mem hlisted _
        · push Not at hlisted
          rw [resolveToken_append_of_notMem hlisted, resolveToken_of_notMem hlisted]
          exact resolveToken_of_notMem (by simpa using Ne.symm hslot)
      rw [hsame, List.count_cons_of_ne hslot]
      omega

end SchemaForge.Template
