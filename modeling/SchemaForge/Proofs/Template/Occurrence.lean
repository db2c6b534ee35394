import SchemaForge.Proofs.Template.Leftover

/-!
# Occurrences of tokens

An `Occurrence` is a place of a text where a token stands. Of two occurrences one is over before the
other one starts (`Occurrence.eq_or_before`), so the scan, which goes on behind each token that it
finds, finds one for every place (`tokens_eq_filterMap_tails`). `unresolved_exact` says what this
comes to for the check of what is left over: it lists each token that stands anywhere in the text
once, in the order of the first places.

For the same reason plain search for one placeholder and the pass over all tokens come to the same
(`fill_eq_substitute`).
-/

namespace SchemaForge.Template

variable {t text : List Char}

/-! ## Places of tokens -/

/-- A place of a text where a token stands, by what is in front of the token and behind it. -/
structure Occurrence (text : List Char) where
  /-- What is in front of the token. -/
  front : List Char
  /-- The token. -/
  token : List Char
  /-- What is behind the token. -/
  back : List Char
  /-- It is a token. -/
  isToken : IsToken token
  /-- The three make up the text. -/
  parts : front ++ (token ++ back) = text

namespace Occurrence

/-- One occurrence is over before the other one starts. -/
def Before (o o' : Occurrence text) : Prop := o.front.length + o.token.length ≤ o'.front.length

/-- The text starts with what is in front of an occurrence. -/
theorem front_isPrefix (o : Occurrence text) : o.front <+: text := ⟨_, o.parts⟩

/-- The text goes on with the token of an occurrence. -/
theorem through_isPrefix (o : Occurrence text) : o.front ++ o.token <+: text :=
  ⟨o.back, by rw [List.append_assoc, o.parts]⟩

/-- One token at most stands at a place. -/
theorem ext_of_front {o o' : Occurrence text} (h : o.front = o'.front) : o = o' := by
  obtain ⟨front, token, back, htoken, hparts⟩ := o
  obtain ⟨front', token', back', htoken', hparts'⟩ := o'
  obtain rfl : front = front' := h
  have htext : token ++ back = token' ++ back' :=
    List.append_cancel_left (hparts.trans hparts'.symm)
  have hfind := tokenAt?_append htoken back
  rw [htext, tokenAt?_append htoken'] at hfind
  obtain rfl := Option.some.inj hfind
  obtain rfl := List.append_cancel_left htext
  rfl

/-- An occurrence is over before any other starts that does not start in front of it. -/
theorem eq_or_before_of_le {o o' : Occurrence text} (h : o.front.length ≤ o'.front.length) :
    o = o' ∨ o.Before o' := by
  obtain ⟨gap, hgap⟩ : o.front <+: o'.front :=
    List.prefix_of_prefix_length_le o.front_isPrefix o'.front_isPrefix h
  by_cases hsame : gap = []
  · exact .inl (ext_of_front (by rw [← hgap, hsame, List.append_nil]))
  right
  by_contra hlate
  have hshort : o'.front.length < (o.front ++ o.token).length := by
    rw [List.length_append]
    exact Nat.lt_of_not_le hlate
  obtain ⟨s, hs⟩ : o'.front <+: o.front ++ o.token :=
    List.prefix_of_prefix_length_le o'.front_isPrefix o.through_isPrefix hshort.le
  -- The other token would start inside this one.
  have htoken : gap ++ s = o.token := by
    rw [← hgap, List.append_assoc] at hs
    exact List.append_cancel_left hs
  have hrest : s ≠ [] := by
    rintro rfl
    rw [← hs, List.append_nil] at hshort
    exact lt_irrefl _ hshort
  have htext : o'.front ++ (s ++ o.back) = o'.front ++ (o'.token ++ o'.back) :=
    calc o'.front ++ (s ++ o.back)
        = o.front ++ o.token ++ o.back := by rw [← hs, List.append_assoc]
      _ = text := by rw [List.append_assoc, o.parts]
      _ = o'.front ++ (o'.token ++ o'.back) := o'.parts.symm
  have hnone : tokenAt? (s ++ o.back) = none :=
    IsToken.tokenAt?_suffix (htoken.symm ▸ o.isToken) hsame hrest o.back
  rw [List.append_cancel_left htext, tokenAt?_append o'.isToken] at hnone
  cases hnone

/-- Of two occurrences one is over before the other one starts. -/
theorem eq_or_before (o o' : Occurrence text) : o = o' ∨ o.Before o' ∨ o'.Before o := by
  rcases le_total o.front.length o'.front.length with h | h
  · exact (eq_or_before_of_le h).imp_right .inl
  · rcases eq_or_before_of_le h with rfl | hbefore
    · exact .inl rfl
    · exact .inr (.inr hbefore)

/-- An occurrence that is over before another one starts is in the text in front of that. -/
theorem Before.isInfix {o o' : Occurrence text} (h : o.Before o') : o.token <:+: o'.front := by
  obtain ⟨gap, hgap⟩ : o.front ++ o.token <+: o'.front :=
    List.prefix_of_prefix_length_le o.through_isPrefix o'.front_isPrefix
      (by rwa [List.length_append])
  exact ⟨o.front, gap, hgap⟩

/-- The same occurrence in the text that has something more in front. -/
def behind (x : List Char) (o : Occurrence text) : Occurrence (x ++ text) where
  front := x ++ o.front
  token := o.token
  back := o.back
  isToken := o.isToken
  parts := by rw [List.append_assoc, o.parts]

end Occurrence

/-! ## What the scan finds -/

/-- No token starts inside another one, so none is found there. -/
theorem filterMap_tails_token {a s : List Char} (h : IsToken (a ++ s)) (ha : a ≠ [])
    (rest : List Char) :
    (s ++ rest).tails.filterMap tokenAt? = rest.tails.filterMap tokenAt? := by
  induction s generalizing a with
  | nil => rfl
  | cons c s ih =>
    have hnone : tokenAt? (c :: s ++ rest) = none := h.tokenAt?_suffix ha (by simp) rest
    rw [List.cons_append] at hnone ⊢
    rw [List.tails_cons, List.filterMap_cons_none hnone]
    exact ih (a := a ++ [c]) (by simpa using h) (by simp)

/-- The scan finds a token at every place where one stands. -/
theorem tokens_eq_filterMap_tails (text : List Char) :
    tokens text = text.tails.filterMap tokenAt? := by
  induction text using scan_induction with
  | nil => rfl
  | character c rest hnone ih =>
    rw [tokens_cons hnone, List.tails_cons, List.filterMap_cons_none hnone, ih]
  | token t rest ht ih =>
    obtain ⟨d, body, -, hbraces⟩ := ht.eq_braces
    obtain ⟨c, s, rfl⟩ : ∃ c s, t = c :: s := ⟨'{', _, hbraces⟩
    have hfound : tokenAt? (c :: (s ++ rest)) = some (c :: s) := tokenAt?_append ht rest
    rw [tokens_token_append ht, ih, List.cons_append, List.tails_cons,
      List.filterMap_cons_some hfound, filterMap_tails_token (a := [c]) ht (by simp)]

/-- A token that is found has its place in the text, with those found before it in front. -/
theorem exists_occurrence {before after : List (List Char)}
    (h : tokens text = before ++ t :: after) :
    ∃ o : Occurrence text, o.token = t ∧ tokens o.front = before := by
  induction text using scan_induction generalizing before with
  | nil => simp [tokens, scan_nil] at h
  | character c rest hnone ih =>
    rw [tokens_cons hnone] at h
    obtain ⟨o, htoken, hfront⟩ := ih h
    -- No token starts at the character in the whole text, so none does in a beginning of it.
    have hstill : tokenAt? (c :: o.front) = none := by
      by_contra hsome
      obtain ⟨u, hu⟩ := Option.ne_none_iff_exists'.mp hsome
      obtain ⟨hutoken, hprefix⟩ := tokenAt?_eq_some_iff.mp hu
      have hlong : u <+: c :: rest := hprefix.trans (List.prefix_cons_inj c |>.mpr o.front_isPrefix)
      rw [tokenAt?_eq_some_iff.mpr ⟨hutoken, hlong⟩] at hnone
      cases hnone
    exact ⟨o.behind [c], htoken, (tokens_cons hstill).trans hfront⟩
  | token u rest hu ih =>
    rw [tokens_token_append hu] at h
    cases before with
    | nil =>
      obtain ⟨rfl, -⟩ := List.cons.inj h
      exact ⟨⟨[], u, rest, hu, rfl⟩, rfl, rfl⟩
    | cons v before =>
      obtain ⟨rfl, hrest⟩ := List.cons.inj h
      obtain ⟨o, htoken, hfront⟩ := ih hrest
      exact ⟨o.behind u, htoken, by rw [← hfront]; exact tokens_token_append hu o.front⟩

/-! ## What is left over -/

/-- What is listed without repetitions is listed in the order in which it first appears. -/
theorem pairwise_eraseDups {α : Type} [BEq α] [LawfulBEq α] (l : List α) :
    l.eraseDups.Pairwise fun a b =>
      a ≠ b ∧ ∃ before after, l = before ++ a :: after ∧ b ∉ before := by
  induction l using List.reverseRecOn with
  | nil => simp
  | append_singleton l c ih =>
    have hearlier : l.eraseDups.Pairwise fun a b =>
        a ≠ b ∧ ∃ before after, l ++ [c] = before ++ a :: after ∧ b ∉ before := by
      refine ih.imp ?_
      rintro a b ⟨hne, before, after, rfl, hb⟩
      exact ⟨hne, before, after ++ [c], by simp, hb⟩
    rw [List.eraseDups_append]
    by_cases hc : c ∈ l
    · have hnone : [c].removeAll l = [] := by simp [List.removeAll, hc]
      rw [hnone, List.eraseDups_nil, List.append_nil]
      exact hearlier
    · have hlast : ([c].removeAll l).eraseDups = [c] := by
        simp [List.removeAll, hc, List.eraseDups_cons]
      rw [hlast]
      refine List.pairwise_append.mpr ⟨hearlier, List.pairwise_singleton _ c, ?_⟩
      intro a ha b hb
      obtain rfl := List.mem_singleton.mp hb
      obtain ⟨before, after, rfl⟩ := List.append_of_mem (List.mem_eraseDups.mp ha)
      simp only [List.mem_append, List.mem_cons, not_or] at hc
      exact ⟨Ne.symm hc.2.1, before, after ++ [b], by simp, hc.1⟩

/-- Some occurrence of a token is over before any of another one starts. -/
def Leads (text t u : List Char) : Prop :=
  ∃ o : Occurrence text, o.token = t ∧ ∀ o' : Occurrence text, o'.token = u → o.Before o'

/-- A token that is found in front of another one leads it. -/
theorem leads_of_tokens {u : List Char} {before after : List (List Char)}
    (h : tokens text = before ++ t :: after) (hne : t ≠ u) (hu : u ∉ before) :
    Leads text t u := by
  obtain ⟨o, rfl, hfront⟩ := exists_occurrence h
  refine ⟨o, rfl, ?_⟩
  rintro o' rfl
  rcases o.eq_or_before o' with rfl | hbefore | hbehind
  · exact absurd rfl hne
  · exact hbefore
  · exact absurd (hfront ▸ mem_tokens.mpr ⟨o'.isToken, hbehind.isInfix⟩) hu

/-- The scan for what is left over misses nothing. It lists no token twice, lists exactly the tokens
that stand somewhere in the text, and lists a token before another one if it stands in front of all
occurrences of that. This is so because no two occurrences of tokens overlap: the tokens that the
scan comes across, with their repetitions, are those that are found from each place of the text. -/
theorem unresolved_exact (text : String) :
    (unresolved text).Nodup ∧
    (∀ t : String, t ∈ unresolved text ↔ IsToken t.toList ∧ t.toList <:+: text.toList) ∧
    (unresolved text).Pairwise (fun t u => Leads text.toList t.toList u.toList) ∧
    (∀ o o' : Occurrence text.toList, o = o' ∨ o.Before o' ∨ o'.Before o) ∧
    tokens text.toList = text.toList.tails.filterMap tokenAt? := by
  have hordered := pairwise_eraseDups (tokens text.toList)
  refine ⟨?_, fun t => ?_, ?_, Occurrence.eq_or_before, tokens_eq_filterMap_tails _⟩
  · refine List.pairwise_map.mpr (hordered.imp fun h heq => h.1 ?_)
    exact String.ofList_injective heq
  · rw [unresolved, List.mem_map, ← mem_tokens]
    constructor
    · rintro ⟨u, hu, rfl⟩
      rw [String.toList_ofList]
      exact List.mem_eraseDups.mp hu
    · exact fun h => ⟨t.toList, List.mem_eraseDups.mpr h, String.ofList_toList⟩
  · refine List.pairwise_map.mpr (hordered.imp ?_)
    rintro t u ⟨hne, before, after, htokens, hu⟩
    rw [String.toList_ofList, String.toList_ofList]
    exact leads_of_tokens htokens hne hu

/-- Braces in a row do not hide a token, and white space is part of it. -/
example : unresolved "{{{{b}}}} {{ a }}{{b}}{{a}} {{9}}" = ["{{b}}", "{{ a }}", "{{a}}"] := by
  decide +kernel

/-! ## Filling one placeholder -/

/-- Plain search for a placeholder and one pass over all tokens come to the same, whatever the value
is: it is put in the place of each occurrence of the placeholder, and a text without any stays as it
is. -/
theorem fill_eq_substitute (p : Placeholder) (value : String) :
    (∀ text, fill text p value = substitute text [(p, value)]) ∧
    (∀ front back, fill (front ++ String.ofList p.token ++ back) p value =
      fill front p value ++ value ++ fill back p value) ∧
    ∀ text : String, ¬p.token <:+: text.toList → fill text p value = text := by
  refine ⟨fun text => ?_, fun front back => ?_, fun text hnone => ?_⟩
  · apply String.toList_inj.mp
    rw [toList_fill, toList_substitute]
  · have hvalue : resolveToken [(p, value)] p.token = value.toList := by simp [resolveToken]
    apply String.toList_inj.mp
    simp only [String.toList_append, toList_fill, String.toList_ofList, List.append_assoc]
    rw [resolved_append_token _ p.isToken_token, hvalue]
  · apply String.toList_inj.mp
    rw [toList_fill]
    refine resolved_eq_self fun t ht => resolveToken_of_notMem ?_
    intro v hv htoken
    obtain rfl := List.mem_singleton.mp hv
    exact hnone (htoken ▸ (mem_tokens.mp ht).2)

end SchemaForge.Template
