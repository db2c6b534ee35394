import Mathlib.Data.List.Basic
import Mathlib.Tactic.Common
import SchemaForge.Text.Camel

/-!
# The characters of upper camel case

The only ASCII characters in an upper camel case text are letters and digits (`upperCamel_plain`),
whatever the text it is made of. So a name in upper camel case holds no underscore, slash, quote or
brace, and can stand in a file name or in a template. Of an ASCII text it has no other characters at
all (`upperCamel_isAlphanum`), and up to case these are the letters and digits of the text
(`map_toLower_upperCamel`).

The words hold letters and digits of the text only (`words_subset`), and all of them
(`flatten_words`). Case mapping can move a character far away, so its table is checked image by
image (`mapCase_plain`). What separates two words ends the one before it, whatever follows, so a text
is put into upper camel case part by part (`upperCamel_append_separator`).
-/

namespace SchemaForge.Text

/-- An ASCII character is a letter or a digit; a character beyond ASCII may be any. -/
def IsPlain (c : Char) : Prop := c.toNat < 128 → c.isAlphanum = true

instance (c : Char) : Decidable (IsPlain c) := inferInstanceAs (Decidable (_ → _))

/-- A plain character is none of the ASCII characters that are not letters or digits. -/
theorem IsPlain.ne {c : Char} (h : IsPlain c) (d : Char) (hd : ¬IsPlain d) : c ≠ d := by
  rintro rfl
  exact hd h

/-- What is found of the characters of a text one by one holds of all of them. -/
theorem forall_of_all {P : Char → Prop} [DecidablePred P] {text : List Char}
    (h : text.all (decide <| P ·) = true) : ∀ c ∈ text, P c := by
  intro c hc
  exact of_decide_eq_true (List.all_eq_true.mp h c hc)

/-- A text whose characters are plain one by one is plain. -/
theorem plain_of_all {text : List Char} (h : text.all (decide <| IsPlain ·) = true) :
    ∀ c ∈ text, IsPlain c := forall_of_all h

/-- What holds of every ASCII code holds of the ASCII characters. -/
theorem forall_ascii {P : Char → Prop} (h : ∀ n < 128, P (Char.ofNat n)) {c : Char}
    (hc : c.toNat < 128) : P c := by
  have hcode := h c.toNat hc
  rwa [Char.ofNat_toNat] at hcode

/-! ## Words -/

/-- The ASCII characters of the class of letters and digits are the ASCII letters and digits. -/
theorem alphanumeric_ascii {c : Char} (hc : c.toNat < 128) :
    alphanumeric.contains c = c.isAlphanum :=
  forall_ascii (P := fun c => alphanumeric.contains c = c.isAlphanum) (by decide +kernel) hc

/-- The class of letters and digits has no other ASCII characters. -/
theorem plain_of_alphanumeric {c : Char} (h : alphanumeric.contains c = true) : IsPlain c :=
  fun hc => alphanumeric_ascii hc ▸ h

/-- The runs of a text have its letters and digits only. -/
theorem runs_subset {run text w : List Char} (hw : w ∈ runs run text) :
    ∀ c ∈ w, c ∈ run ∨ c ∈ text ∧ alphanumeric.contains c = true := by
  induction text generalizing run with
  | nil =>
    rw [runs, List.mem_singleton] at hw
    subst hw
    simp
  | cons d rest ih =>
    intro c hc
    rw [runs] at hw
    split_ifs at hw with hd
    · rcases ih hw c hc with hrun | ⟨hrest, halpha⟩
      · rcases List.mem_cons.mp hrun with rfl | hrun
        · exact .inr ⟨List.mem_cons_self, hd⟩
        · exact .inl hrun
      · exact .inr ⟨List.mem_cons_of_mem _ hrest, halpha⟩
    · rcases List.mem_cons.mp hw with rfl | hw
      · exact .inl (List.mem_reverse.mp hc)
      · rcases ih hw c hc with hrun | ⟨hrest, halpha⟩
        · cases hrun
        · exact .inr ⟨List.mem_cons_of_mem _ hrest, halpha⟩

/-- Cutting a run into humps makes up no characters. -/
theorem humps_subset {h : Hump} {word text w : List Char} (hw : w ∈ humps h word text) :
    ∀ c ∈ w, c ∈ word ∨ c ∈ text := by
  induction h, word, text using humps.induct with
  | case1 h word hempty => simp [humps, hempty] at hw
  | case2 h word hempty =>
    rw [humps, if_neg hempty, List.mem_singleton] at hw
    subst hw
    simp
  | case3 h word d =>
    rw [humps, List.mem_singleton] at hw
    subst hw
    simp [or_comm]
  | case4 h word c d rest hsmall ih =>
    rw [humps, if_pos hsmall] at hw
    grind
  | case5 h word c d rest hsmall hcapital ih =>
    rw [humps, if_neg hsmall, if_pos hcapital] at hw
    grind
  | case6 h word c d rest hsmall hcapital ih =>
    rw [humps, if_neg hsmall, if_neg hcapital] at hw
    grind

/-- The words of a text have its letters and digits only. -/
theorem words_subset {text w : List Char} (hw : w ∈ words text) :
    ∀ c ∈ w, c ∈ text ∧ alphanumeric.contains c = true := by
  obtain ⟨run, hrun, hw⟩ := List.mem_flatMap.mp hw
  intro c hc
  rcases humps_subset hw c hc with hnone | hin
  · cases hnone
  · exact (runs_subset hrun c hin).resolve_left List.not_mem_nil

/-- The runs of a text have all of its letters and digits, in order. -/
theorem flatten_runs (run text : List Char) :
    (runs run text).flatten = run.reverse ++ text.filter alphanumeric.contains := by
  induction text generalizing run with
  | nil => simp [runs]
  | cons c rest ih =>
    rw [runs]
    split
    next hc => rw [ih, List.filter_cons_of_pos hc, List.reverse_cons, List.append_assoc]; rfl
    next hc => rw [List.flatten_cons, ih, List.filter_cons_of_neg hc]; rfl

/-- Cutting a run into humps loses nothing of it. -/
theorem flatten_humps (h : Hump) (word text : List Char) :
    (humps h word text).flatten = word.reverse ++ text := by
  induction h, word, text using humps.induct with
  | case1 h word hempty => simp [humps, List.isEmpty_iff.mp hempty]
  | case2 h word hempty => simp [humps, hempty]
  | case3 h word c => simp [humps]
  | case4 h word c d rest hsmall ih => rw [humps, if_pos hsmall, List.flatten_cons, ih]; simp
  | case5 h word c d rest hsmall hcapital ih =>
    rw [humps, if_neg hsmall, if_pos hcapital, List.flatten_cons, ih]
    simp
  | case6 h word c d rest hsmall hcapital ih =>
    rw [humps, if_neg hsmall, if_neg hcapital, ih]
    simp

/-- The words of a text have all of its letters and digits, in order. -/
theorem flatten_words (text : List Char) :
    (words text).flatten = text.filter alphanumeric.contains := by
  have hhumps : ∀ run, (humps .fresh [] run).flatten = run := flatten_humps .fresh []
  calc (words text).flatten
      = ((runs [] text).map fun run => (humps .fresh [] run).flatten).flatten := by
        unfold words
        rw [List.flatMap_def, List.flatten_flatten, List.map_map]
        rfl
    _ = (runs [] text).flatten := by simp only [hhumps, List.map_id']
    _ = text.filter alphanumeric.contains := flatten_runs [] text

/-! ## Separators -/

/-- What is no letter or digit ends the run that is being read, and a new one starts behind it. -/
theorem runs_append_separator {c : Char} (hc : alphanumeric.contains c = false)
    (run text rest : List Char) :
    runs run (text ++ c :: rest) = runs run text ++ runs [] rest := by
  induction text generalizing run with
  | nil => simp [runs, hc]
  | cons d text ih =>
    rw [List.cons_append, runs, runs]
    split
    · exact ih (d :: run)
    · rw [ih [], List.cons_append]

/-- The words of a text are those before a separator and those behind it. -/
theorem words_append_separator {c : Char} (hc : alphanumeric.contains c = false)
    (text rest : List Char) : words (text ++ c :: rest) = words text ++ words rest := by
  unfold words
  rw [runs_append_separator hc, List.flatMap_append]

/-- A text is put into upper camel case before a separator and behind it. -/
theorem upperCamel_append_separator {c : Char} (hc : alphanumeric.contains c = false)
    (a b : String) :
    upperCamel (a ++ String.singleton c ++ b) = upperCamel a ++ upperCamel b := by
  have htext : (a ++ String.singleton c ++ b).toList = a.toList ++ c :: b.toList := by simp
  unfold upperCamel
  rw [htext, words_append_separator hc, List.flatMap_append, String.ofList_append]

/-! ## Case mapping -/

/-- Case mapping by a table whose images are plain keeps plain characters plain. -/
theorem mapCase_plain {runs : List CaseRun} {specials : List (Nat × List Nat)}
    (hruns : ∀ r ∈ runs, ∀ i < r.count,
      IsPlain (Char.ofNat ((r.first + r.step * i : Nat) + r.shift).toNat))
    (hspecials : ∀ e ∈ specials, ∀ n ∈ e.2, IsPlain (Char.ofNat n))
    {c d : Char} (hc : IsPlain c) (hd : d ∈ mapCase runs specials c) : IsPlain d := by
  unfold mapCase at hd
  split at hd
  · rename_i r hr
    have hmem : r ∈ runs := List.mem_of_find?_eq_some hr
    have hin : r.contains c.toNat = true := by simpa using List.find?_some hr
    simp only [CaseRun.contains, Bool.and_eq_true, decide_eq_true_eq, beq_iff_eq] at hin
    obtain ⟨⟨hfirst, hstep⟩, hcount⟩ := hin
    -- The character is one of those that the run counts.
    have hn : r.first + r.step * ((c.toNat - r.first) / r.step) = c.toNat := by
      have := Nat.div_add_mod (c.toNat - r.first) r.step
      omega
    have := hruns r hmem _ hcount
    rw [hn] at this
    rw [List.mem_singleton.mp hd]
    exact this
  · split at hd
    · rename_i image himage
      obtain ⟨n, hn, rfl⟩ := List.mem_map.mp hd
      obtain ⟨l, r, heq, -⟩ := List.lookup_eq_some_iff.mp himage
      exact hspecials (c.toNat, image) (by rw [heq]; simp) n hn
    · rw [List.mem_singleton.mp hd]
      exact hc

/-- The capital form of a plain character is plain. -/
theorem toUpper_plain {c d : Char} (hc : IsPlain c) (hd : d ∈ toUpper c) : IsPlain d :=
  mapCase_plain (by decide +kernel) (by decide +kernel) hc hd

/-- The small form of a plain character is plain. -/
theorem toLower_plain {c d : Char} (hc : IsPlain c) (hd : d ∈ toLower c) : IsPlain d :=
  mapCase_plain (by decide +kernel) (by decide +kernel) hc hd

/-- An ASCII letter or digit is an ASCII character. -/
theorem lt_of_isAlphanum {c : Char} (h : c.isAlphanum = true) : c.toNat < 128 := by
  have hval : c.toNat = c.val.toNat := rfl
  unfold Char.isAlphanum Char.isAlpha Char.isUpper Char.isLower Char.isDigit at h
  simp only [Bool.or_eq_true, Bool.and_eq_true, decide_eq_true_eq, UInt32.le_iff_toNat_le] at h
  have hcodes : 'Z'.val.toNat = 90 ∧ 'z'.val.toNat = 122 ∧ '9'.val.toNat = 57 := by decide
  omega

/-- The capital and the small form of an ASCII letter or digit are of the same kind. -/
theorem mapCase_isAlphanum {c : Char} (hc : c.isAlphanum = true) :
    (∀ d ∈ toUpper c, d.isAlphanum = true) ∧ ∀ d ∈ toLower c, d.isAlphanum = true := by
  have hall : (toUpper c).all Char.isAlphanum = true ∧ (toLower c).all Char.isAlphanum = true :=
    forall_ascii (P := fun c => c.isAlphanum = true → (toUpper c).all Char.isAlphanum = true ∧
      (toLower c).all Char.isAlphanum = true) (by decide +kernel) (lt_of_isAlphanum hc) hc
  exact hall.imp List.all_eq_true.mp List.all_eq_true.mp

/-- Case mapping gives an ASCII letter or digit back up to case. -/
theorem map_toLower_mapCase {c : Char} (hc : c.isAlphanum = true) :
    (toUpper c).map Char.toLower = [c.toLower] ∧ (toLower c).map Char.toLower = [c.toLower] :=
  forall_ascii (P := fun c => c.isAlphanum = true → (toUpper c).map Char.toLower = [c.toLower] ∧
    (toLower c).map Char.toLower = [c.toLower]) (by decide +kernel) (lt_of_isAlphanum hc) hc

/-! ## Words in upper camel case -/

section CaseClosed

variable {P : Char → Prop}

/-- What the small forms of characters have, the tail of a word in small letters has. -/
theorem lowerTail_forall (hlower : ∀ c, P c → ∀ d ∈ toLower c, P d) (hsigma : P 'Σ' → P 'ς')
    {w : List Char} (hw : ∀ c ∈ w, P c) : ∀ d ∈ lowerTail w, P d := by
  induction w using lowerTail.induct with
  | case1 => simp [lowerTail]
  | case2 => simpa [lowerTail] using hsigma (hw 'Σ' List.mem_cons_self)
  | case3 c hnot =>
    intro d hd
    rw [lowerTail, if_neg hnot] at hd
    exact hlower c (hw c List.mem_cons_self) d hd
  | case4 c c' rest ih =>
    intro d hd
    rw [lowerTail] at hd
    rcases List.mem_append.mp hd with hd | hd
    · exact hlower c (hw c List.mem_cons_self) d hd
    · exact ih (fun x hx => hw x (List.mem_cons_of_mem _ hx)) d hd

/-- What both forms of characters have, a capitalized word has. -/
theorem capitalize_forall (hupper : ∀ c, P c → ∀ d ∈ toUpper c, P d)
    (hlower : ∀ c, P c → ∀ d ∈ toLower c, P d) (hsigma : P 'Σ' → P 'ς')
    {w : List Char} (hw : ∀ c ∈ w, P c) : ∀ d ∈ capitalize w, P d := by
  cases w with
  | nil => simp [capitalize]
  | cons c rest =>
    intro d hd
    rw [capitalize] at hd
    rcases List.mem_append.mp hd with hd | hd
    · exact hupper c (hw c List.mem_cons_self) d hd
    · exact lowerTail_forall hlower hsigma (fun x hx => hw x (List.mem_cons_of_mem _ hx)) d hd

/-- What the letters and digits of a text have and case mapping keeps, its upper camel case has. -/
theorem upperCamel_forall (hupper : ∀ c, P c → ∀ d ∈ toUpper c, P d)
    (hlower : ∀ c, P c → ∀ d ∈ toLower c, P d) (hsigma : P 'Σ' → P 'ς') {text : String}
    (htext : ∀ c ∈ text.toList, alphanumeric.contains c = true → P c) :
    ∀ d ∈ (upperCamel text).toList, P d := by
  intro d hd
  rw [upperCamel, String.toList_ofList] at hd
  obtain ⟨w, hw, hd⟩ := List.mem_flatMap.mp hd
  refine capitalize_forall hupper hlower hsigma (fun c hc => ?_) d hd
  obtain ⟨hin, halpha⟩ := words_subset hw c hc
  exact htext c hin halpha

end CaseClosed

/-- The ASCII characters of an upper camel case text are letters and digits. -/
theorem upperCamel_plain (text : String) : ∀ c ∈ (upperCamel text).toList, IsPlain c :=
  upperCamel_forall (fun _ hc _ hd => toUpper_plain hc hd) (fun _ hc _ hd => toLower_plain hc hd)
    (by decide) fun _ _ halpha => plain_of_alphanumeric halpha

/-- The tail of an ASCII word in small letters is the tail up to case. -/
theorem map_toLower_lowerTail {w : List Char} (hw : ∀ c ∈ w, c.isAlphanum = true) :
    (lowerTail w).map Char.toLower = w.map Char.toLower := by
  induction w using lowerTail.induct with
  | case1 => rfl
  | case2 => exact absurd (hw 'Σ' List.mem_cons_self) (by decide)
  | case3 c hnot =>
    rw [lowerTail, if_neg hnot, (map_toLower_mapCase (hw c List.mem_cons_self)).2]
    rfl
  | case4 c d rest ih =>
    obtain ⟨hc, hrest⟩ := List.forall_mem_cons.mp hw
    rw [lowerTail, List.map_append, (map_toLower_mapCase hc).2, ih hrest]
    rfl

/-- A capitalized ASCII word is the word up to case. -/
theorem map_toLower_capitalize {w : List Char} (hw : ∀ c ∈ w, c.isAlphanum = true) :
    (capitalize w).map Char.toLower = w.map Char.toLower := by
  cases w with
  | nil => rfl
  | cons c rest =>
    obtain ⟨hc, hrest⟩ := List.forall_mem_cons.mp hw
    rw [capitalize, List.map_append, (map_toLower_mapCase hc).1, map_toLower_lowerTail hrest]
    rfl

/-- The upper camel case of an ASCII text has all of its letters and digits, in order and up to
case. -/
theorem map_toLower_upperCamel {text : String} (h : ∀ c ∈ text.toList, c.toNat < 128) :
    (upperCamel text).toList.map Char.toLower =
      (text.toList.filter Char.isAlphanum).map Char.toLower := by
  have hwords : ∀ w ∈ words text.toList,
      (capitalize w).map Char.toLower = w.map Char.toLower := by
    intro w hw
    refine map_toLower_capitalize fun c hc => ?_
    obtain ⟨hin, halpha⟩ := words_subset hw c hc
    exact plain_of_alphanumeric halpha (h c hin)
  have hfilter : text.toList.filter alphanumeric.contains = text.toList.filter Char.isAlphanum :=
    List.filter_congr fun c hc => alphanumeric_ascii (h c hc)
  calc (upperCamel text).toList.map Char.toLower
      = (words text.toList).flatMap fun w => (capitalize w).map Char.toLower := by
        rw [upperCamel, String.toList_ofList, List.map_flatMap]
    _ = (words text.toList).flatMap fun w => w.map Char.toLower :=
        List.flatMap_congr hwords
    _ = (words text.toList).flatten.map Char.toLower := by
        rw [List.map_flatten, List.flatMap_def]
    _ = (text.toList.filter Char.isAlphanum).map Char.toLower := by rw [flatten_words, hfilter]

/-- The upper camel case of an ASCII text has ASCII letters and digits only. -/
theorem upperCamel_isAlphanum {text : String} (h : ∀ c ∈ text.toList, c.toNat < 128) :
    ∀ d ∈ (upperCamel text).toList, d.isAlphanum = true :=
  upperCamel_forall (fun _ hc => (mapCase_isAlphanum hc).1) (fun _ hc => (mapCase_isAlphanum hc).2)
    (by decide) fun c hc halpha => plain_of_alphanumeric halpha (h c hc)

end SchemaForge.Text
