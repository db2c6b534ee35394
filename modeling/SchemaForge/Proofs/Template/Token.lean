import Mathlib.Data.List.Infix
import Mathlib.Data.List.TakeWhile
import Mathlib.Tactic.Common
import SchemaForge.Template.Token

/-!
# Where the tokens of a text are

`IsToken` says what a token is without a search, and `tokenAt?_eq_some_iff` that the search at the
start of a text finds exactly the tokens that stand there. A token has no other token in it
(`IsToken.tokenAt?_suffix`), so the scan of a text goes on behind each token it meets
(`scan_token_append`).

A text is *sealed* when no token starts in it, whatever follows. The scan passes over a sealed text
character by character (`scan_sealed_append`), and sealed texts in a row are sealed.
-/

namespace SchemaForge.Template

open Text (whiteSpace)

/-- A token: a name between two pairs of braces, with white space around the name allowed. -/
def IsToken (t : List Char) : Prop :=
  ∃ (before : List Char) (c : Char) (name after : List Char),
    (∀ x ∈ before, whiteSpace.contains x = true) ∧ isNameStart c = true ∧
      (∀ x ∈ name, isNameChar x = true) ∧ (∀ x ∈ after, whiteSpace.contains x = true) ∧
      t = '{' :: '{' :: before ++ c :: name ++ after ++ ['}', '}']

/-- A token stands somewhere in the text. -/
def HasToken (text : List Char) : Prop := ∃ t, IsToken t ∧ t <:+: text

/-! ## Classes of characters -/

/-- The visible characters of ASCII are no white space. -/
theorem whiteSpace_eq_false {c : Char} (h : 33 ≤ c.toNat) (h' : c.toNat < 133) :
    whiteSpace.contains c = false := by
  simp only [Text.CharClass.contains, whiteSpace, Text.CharClass.insideAfter]
  rw [if_neg (by omega), if_neg (by omega), if_neg (by omega), if_neg (by omega), if_pos h']
  rfl

/-- The characters of names are visible characters of ASCII, and none is a brace or a quote. -/
theorem isNameChar_bounds {c : Char} (h : isNameChar c = true) :
    48 ≤ c.toNat ∧ c.toNat < 123 := by
  unfold isNameChar Char.isAlphanum Char.isAlpha Char.isUpper Char.isLower Char.isDigit at h
  simp only [Bool.or_eq_true, Bool.and_eq_true, decide_eq_true_eq, beq_iff_eq,
    UInt32.le_iff_toNat_le, ge_iff_le] at h
  have hval : c.val.toNat = c.toNat := rfl
  rw [hval] at h
  rcases h with ((⟨h1, h2⟩ | ⟨h1, h2⟩) | ⟨h1, h2⟩) | rfl
  · exact ⟨le_trans (by decide) h1, lt_of_le_of_lt h2 (by decide)⟩
  · exact ⟨le_trans (by decide) h1, lt_of_le_of_lt h2 (by decide)⟩
  · exact ⟨h1, lt_of_le_of_lt h2 (by decide)⟩
  · decide

/-- A name goes on with any character that it can start with. -/
theorem isNameChar_of_isNameStart {c : Char} (h : isNameStart c = true) : isNameChar c = true := by
  unfold isNameStart at h
  unfold isNameChar Char.isAlphanum
  simp only [Bool.or_eq_true] at h ⊢
  tauto

/-- The characters of names are no white space. -/
theorem whiteSpace_of_isNameChar {c : Char} (h : isNameChar c = true) :
    whiteSpace.contains c = false := by
  obtain ⟨h1, h2⟩ := isNameChar_bounds h
  exact whiteSpace_eq_false (by omega) (by omega)

/-- Between its pairs of braces a token has characters of names and white space only. -/
theorem IsToken.eq_braces {t : List Char} (h : IsToken t) :
    ∃ (d : Char) (body : List Char),
      (∀ x ∈ d :: body, isNameChar x = true ∨ whiteSpace.contains x = true) ∧
        t = '{' :: '{' :: d :: body ++ ['}', '}'] := by
  obtain ⟨before, c, name, after, hbefore, hc, hname, hafter, rfl⟩ := h
  have hall : ∀ x ∈ before ++ c :: name ++ after,
      isNameChar x = true ∨ whiteSpace.contains x = true := by
    intro x hx
    simp only [List.mem_append, List.mem_cons] at hx
    rcases hx with (hx | rfl | hx) | hx
    · exact .inr (hbefore x hx)
    · exact .inl (isNameChar_of_isNameStart hc)
    · exact .inl (hname x hx)
    · exact .inr (hafter x hx)
  obtain ⟨d, body, heq⟩ : ∃ d body, before ++ c :: name ++ after = d :: body := by
    cases before with
    | nil => exact ⟨c, name ++ after, by simp⟩
    | cons b rest => exact ⟨b, rest ++ c :: name ++ after, by simp⟩
  refine ⟨d, body, heq ▸ hall, ?_⟩
  calc '{' :: '{' :: before ++ c :: name ++ after ++ ['}', '}']
      = '{' :: '{' :: (before ++ c :: name ++ after) ++ ['}', '}'] := by simp
    _ = '{' :: '{' :: d :: body ++ ['}', '}'] := by rw [heq]

/-- A character that is no brace, no part of a name and no white space is in no token. -/
theorem IsToken.notMem {t : List Char} (h : IsToken t) {c : Char} (hopen : c ≠ '{')
    (hclose : c ≠ '}') (hname : isNameChar c = false) (hspace : whiteSpace.contains c = false) :
    c ∉ t := by
  obtain ⟨d, body, hall, rfl⟩ := h.eq_braces
  intro hc
  have hin : c ∈ d :: body := by
    simpa [hopen, hclose] using hc
  rcases hall c hin with h' | h'
  · rw [hname] at h'; cases h'
  · rw [hspace] at h'; cases h'

/-! ## The search for a token -/

/-- Only a text that opens with two braces starts with a token. -/
theorem tokenAt?_eq_none {text : List Char} (h : ¬['{', '{'] <+: text) : tokenAt? text = none := by
  unfold tokenAt?
  split
  · rename_i rest
    exact absurd (List.prefix_append ['{', '{'] rest) h
  · rfl

/-- What the search finds is a token at the start of the text. -/
theorem isToken_of_tokenAt? {text t : List Char} (h : tokenAt? text = some t) :
    IsToken t ∧ t <+: text := by
  unfold tokenAt? at h
  split at h
  · rename_i rest
    split at h
    · rename_i name after hname
      split at h
      · rename_i tail hclose
        obtain rfl := Option.some.inj h
        unfold takeName? at hname
        split at hname
        · rename_i c inner hrest
          split_ifs at hname with hc
          obtain ⟨rfl, rfl⟩ := Prod.mk.inj (Option.some.inj hname)
          refine ⟨⟨_, c, _, _, ?_, hc, ?_, ?_, rfl⟩, tail, ?_⟩
          · exact fun x hx => List.mem_takeWhile_imp hx
          · exact fun x hx => List.mem_takeWhile_imp hx
          · exact fun x hx => List.mem_takeWhile_imp hx
          · -- The pieces that were taken and dropped make up the text again.
            have h1 := List.takeWhile_append_dropWhile (p := whiteSpace.contains) (l := rest)
            have h2 := List.takeWhile_append_dropWhile (p := isNameChar) (l := inner)
            have h3 := List.takeWhile_append_dropWhile (p := whiteSpace.contains)
              (l := inner.dropWhile isNameChar)
            rw [hrest] at h1
            rw [hclose] at h3
            rw [← h3] at h2
            rw [← h2] at h1
            simpa using h1
        · cases hname
      · cases h
    · cases h
  · cases h

/-- A run of characters of a class, before a character outside of it, is what the class takes. -/
theorem takeWhile_run {p : Char → Bool} {run : List Char} (hrun : ∀ x ∈ run, p x = true)
    {c : Char} (hc : p c = false) (rest : List Char) :
    (run ++ c :: rest).takeWhile p = run ∧ (run ++ c :: rest).dropWhile p = c :: rest := by
  have hstop : ¬p c = true := by rw [hc]; exact Bool.false_ne_true
  constructor
  · rw [List.takeWhile_append_of_pos hrun, List.takeWhile_cons_of_neg hstop, List.append_nil]
  · rw [List.dropWhile_append_of_pos hrun, List.dropWhile_cons_of_neg hstop]

/-- The search finds a token at the start of a text, whatever follows it. -/
theorem tokenAt?_append {t : List Char} (h : IsToken t) (rest : List Char) :
    tokenAt? (t ++ rest) = some t := by
  obtain ⟨before, c, name, after, hbefore, hc, hname, hafter, rfl⟩ := h
  have hclose : whiteSpace.contains '}' = false := by decide
  -- The name ends where it should: white space or a brace follows it.
  obtain ⟨d, tail, htail, hd⟩ : ∃ d tail, after ++ '}' :: '}' :: rest = d :: tail ∧
      isNameChar d = false := by
    cases after with
    | nil => exact ⟨'}', '}' :: rest, rfl, by decide⟩
    | cons x xs =>
      refine ⟨x, xs ++ '}' :: '}' :: rest, rfl, ?_⟩
      by_contra hx
      have := whiteSpace_of_isNameChar (Bool.not_eq_false _ ▸ hx)
      rw [hafter x (by simp)] at this
      cases this
  obtain ⟨b1, b2⟩ := takeWhile_run hbefore
    (whiteSpace_of_isNameChar (isNameChar_of_isNameStart hc)) (name ++ d :: tail)
  obtain ⟨n1, n2⟩ := takeWhile_run hname hd tail
  obtain ⟨a1, a2⟩ := takeWhile_run hafter hclose ('}' :: rest)
  have htext : '{' :: '{' :: before ++ c :: name ++ after ++ ['}', '}'] ++ rest =
      '{' :: '{' :: (before ++ c :: (name ++ d :: tail)) := by
    rw [← htail]; simp
  have hfind : takeName? (c :: (name ++ d :: tail)) = some (c :: name, d :: tail) := by
    simp only [takeName?, if_pos hc, n1, n2]
  rw [htext]
  simp only [tokenAt?, b1, b2, hfind]
  rw [← htail]
  simp only [a1, a2]

/-- The search finds exactly the tokens at the start of a text. -/
theorem tokenAt?_eq_some_iff {text t : List Char} :
    tokenAt? text = some t ↔ IsToken t ∧ t <+: text := by
  refine ⟨isToken_of_tokenAt?, ?_⟩
  rintro ⟨h, rest, rfl⟩
  exact tokenAt?_append h rest

/-- A text has a token exactly when one starts at some place of it. -/
theorem hasToken_iff {text : List Char} :
    HasToken text ↔ ∃ s ∈ text.tails, (tokenAt? s).isSome = true := by
  constructor
  · rintro ⟨t, ht, a, b, rfl⟩
    refine ⟨t ++ b, ?_, by rw [tokenAt?_append ht]; rfl⟩
    rw [List.mem_tails, List.append_assoc]
    exact List.suffix_append a (t ++ b)
  · rintro ⟨s, hs, hsome⟩
    obtain ⟨t, ht⟩ := Option.isSome_iff_exists.mp hsome
    obtain ⟨htok, hpre⟩ := isToken_of_tokenAt? ht
    exact ⟨t, htok, hpre.isInfix.trans ((List.mem_tails s text).mp hs).isInfix⟩

instance (text : List Char) : Decidable (HasToken text) := decidable_of_iff _ hasToken_iff.symm

/-- No token starts inside another one, whatever follows it. -/
theorem IsToken.tokenAt?_suffix {a s : List Char} (h : IsToken (a ++ s)) (ha : a ≠ [])
    (hs : s ≠ []) (rest : List Char) : tokenAt? (s ++ rest) = none := by
  obtain ⟨d, body, hall, heq⟩ := h.eq_braces
  -- Behind its first two characters a token has no opening brace.
  have hbrace : ∀ x ∈ d :: body ++ ['}', '}'], x ≠ '{' := by
    intro x hx
    rcases List.mem_append.mp hx with hx | hx
    · rintro rfl
      have := hall '{' hx
      revert this
      decide
    · rintro rfl
      simp at hx
  apply tokenAt?_eq_none
  rintro ⟨tail, htail⟩
  match a, ha, s, hs with
  | [x], _, y :: s, _ =>
    -- The suffix starts at the second brace, and no brace follows that.
    simp only [List.cons_append, List.nil_append, List.cons.injEq] at heq htail
    obtain ⟨-, -, rfl⟩ := heq
    simp only [List.cons_append, List.cons.injEq] at htail
    exact hbrace d (by simp) htail.2.1.symm
  | x :: y :: a, _, z :: s, _ =>
    -- The suffix starts behind both opening braces.
    simp only [List.cons_append, List.cons.injEq] at heq htail
    have hz : z ∈ d :: body ++ ['}', '}'] := by
      rw [List.cons_append, ← heq.2.2]; simp
    exact hbrace z hz htail.1.symm

/-! ## The scan -/

/-- Characters that belong to a token that is already cut are passed over. -/
theorem scanFrom_eq_scan_drop (skip : ℕ) (text : List Char) :
    scanFrom skip text = scan (text.drop skip) := by
  induction skip generalizing text with
  | zero => rfl
  | succ n ih =>
    cases text with
    | nil => simp [scanFrom, scan]
    | cons c rest => rw [scanFrom, List.drop_succ_cons, ih]

/-- The scan of the empty text. -/
theorem scan_nil : scan [] = [] := rfl

/-- The scan takes a character by itself where no token starts. -/
theorem scan_cons {c : Char} {rest : List Char} (h : tokenAt? (c :: rest) = none) :
    scan (c :: rest) = .character c :: scan rest := by
  simp only [scan, scanFrom, h]

/-- The scan takes a token as a whole and goes on behind it. -/
theorem scan_token_append {t : List Char} (h : IsToken t) (rest : List Char) :
    scan (t ++ rest) = .token t :: scan rest := by
  obtain ⟨d, body, -, rfl⟩ := h.eq_braces
  have hfind := tokenAt?_append h rest
  simp only [List.cons_append] at hfind ⊢
  simp only [scan, scanFrom, hfind]
  rw [scanFrom_eq_scan_drop]
  simp [scan]

/-- To prove something of every text it is enough to look at the first character, where no token
starts, and at the first token. -/
@[elab_as_elim]
theorem scan_induction {motive : List Char → Prop} (nil : motive [])
    (character : ∀ c rest, tokenAt? (c :: rest) = none → motive rest → motive (c :: rest))
    (token : ∀ t rest, IsToken t → motive rest → motive (t ++ rest)) (text : List Char) :
    motive text := by
  -- A token takes several characters at once, so the induction is on the length.
  induction hn : text.length using Nat.strong_induction_on generalizing text with
  | _ n ih =>
    cases text with
    | nil => exact nil
    | cons c rest =>
      cases hfind : tokenAt? (c :: rest) with
      | none =>
        have hlt : rest.length < n := by rw [← hn]; simp
        exact character c rest hfind (ih rest.length hlt rest rfl)
      | some t =>
        obtain ⟨ht, tail, heq⟩ := isToken_of_tokenAt? hfind
        have hpos : 0 < t.length := by
          obtain ⟨d, body, -, rfl⟩ := ht.eq_braces
          simp
        have hlt : tail.length < n := by rw [← hn, ← heq, List.length_append]; omega
        rw [← heq]
        exact token t tail ht (ih tail.length hlt tail rfl)

/-! ## Sealed texts -/

/-- No token starts in the text, whatever follows it. -/
def Sealed (text : List Char) : Prop :=
  ∀ s rest, s ≠ [] → s <:+ text → tokenAt? (s ++ rest) = none

/-- A text without two braces in a row, counting one that may follow it, is sealed. -/
theorem sealed_of_no_opening {text : List Char} (h : ¬['{', '{'] <:+: text ++ ['{']) :
    Sealed text := by
  intro s rest hs hsuffix
  apply tokenAt?_eq_none
  intro hopen
  apply h
  have hshort : ['{', '{'] <+: s ++ ['{'] := by
    match s, hs with
    | [x], _ =>
      -- Only the first brace is in the text; the second one is what follows.
      obtain ⟨tail, htail⟩ := hopen
      simp only [List.cons_append, List.cons.injEq] at htail
      rw [← htail.1]
      exact ⟨[], rfl⟩
    | x :: y :: s, _ =>
      obtain ⟨tail, htail⟩ := hopen
      simp only [List.cons_append, List.cons.injEq] at htail
      rw [← htail.1, ← htail.2.1]
      exact ⟨s ++ ['{'], rfl⟩
  obtain ⟨front, rfl⟩ := hsuffix
  rw [List.append_assoc]
  exact hshort.isInfix.trans (List.suffix_append front (s ++ ['{'])).isInfix

/-- A text that ends two texts in a row ends the second, or has it as its own end. -/
theorem suffix_append_cases {α : Type} {s a b : List α} (h : s <:+ a ++ b) :
    s <:+ b ∨ ∃ s', s = s' ++ b ∧ s' <:+ a := by
  rcases List.suffix_or_suffix_of_suffix h (List.suffix_append a b) with hin | ⟨s', rfl⟩
  · exact .inl hin
  · obtain ⟨front, heq⟩ := h
    rw [← List.append_assoc] at heq
    exact .inr ⟨s', rfl, front, List.append_cancel_right heq⟩

/-- The empty text is sealed. -/
theorem sealed_nil : Sealed [] := by
  intro s rest hs hsuffix
  exact absurd (List.suffix_nil.mp hsuffix) hs

/-- Sealed texts in a row are sealed. -/
theorem Sealed.append {a b : List Char} (ha : Sealed a) (hb : Sealed b) : Sealed (a ++ b) := by
  intro s rest hs hsuffix
  rcases suffix_append_cases hsuffix with hin | ⟨s', rfl, hin⟩
  · exact hb s rest hs hin
  · -- The token would start at the second text, or inside the first.
    rcases List.eq_nil_or_concat s' with rfl | hne
    · exact hb b rest (by simpa using hs) (List.suffix_refl b)
    · rw [List.append_assoc]
      refine ha s' (b ++ rest) ?_ hin
      rintro rfl
      obtain ⟨l, x, h⟩ := hne
      simp at h

/-- A text without a token is sealed by what follows it, if that starts with a character that is in
no token and is sealed itself. -/
theorem Sealed.append_of_not_hasToken {a b : List Char} {c : Char} (ha : ¬HasToken a)
    (hc : ∀ t, IsToken t → c ∉ t) (hb : Sealed (c :: b)) : Sealed (a ++ c :: b) := by
  intro s rest hs hsuffix
  rcases suffix_append_cases hsuffix with hin | ⟨s', rfl, hin⟩
  · exact hb s rest hs hin
  · by_contra hsome
    obtain ⟨t, ht⟩ := Option.ne_none_iff_exists'.mp hsome
    obtain ⟨htok, hpre⟩ := isToken_of_tokenAt? ht
    rw [List.append_assoc] at hpre
    apply ha
    refine ⟨t, htok, ?_⟩
    -- A longer token would run through the character in between.
    have hle : t.length ≤ s'.length := by
      by_contra hlong
      have hnext : s' ++ [c] <+: s' ++ (c :: b ++ rest) := ⟨b ++ rest, by simp⟩
      have hlength : (s' ++ [c]).length ≤ t.length := by
        rw [List.length_append, List.length_singleton]
        omega
      have hthrough : s' ++ [c] <+: t := List.prefix_of_prefix_length_le hnext hpre hlength
      exact hc t htok (hthrough.subset (by simp))
    have hin' : t <+: s' :=
      List.prefix_of_prefix_length_le hpre (List.prefix_append s' _) hle
    exact hin'.isInfix.trans hin.isInfix

/-- The scan passes over a sealed text character by character. -/
theorem scan_sealed_append {text : List Char} (h : Sealed text) (rest : List Char) :
    scan (text ++ rest) = text.map .character ++ scan rest := by
  induction text with
  | nil => rfl
  | cons c text ih =>
    have hfirst : tokenAt? (c :: (text ++ rest)) = none :=
      h (c :: text) rest (by simp) (List.suffix_refl _)
    have htail : Sealed text := fun s rest hs hsuffix =>
      h s rest hs (hsuffix.trans (List.suffix_cons c text))
    rw [List.cons_append, scan_cons hfirst, ih htail, List.map_cons, List.cons_append]

end SchemaForge.Template
