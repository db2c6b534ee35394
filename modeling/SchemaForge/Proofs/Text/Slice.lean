import SchemaForge.Proofs.Text.ByteOrder

/-!
# Slices by position in bytes

A text may be sliced only where a character of it ends. `splitBytes?` cuts a text behind a number of
bytes and has no answer if they end inside a character or the text ends before them, which is what
`splitBytes?_eq_some_iff` says. `withoutLast?` cuts a text in front of its last bytes, if these are
the bytes of its last characters (`withoutLast?_append`). A character that is one byte long is a
character of ASCII, and any other begins with a byte that is none (`exists_utf8EncodeChar`).
-/

namespace SchemaForge.Text

/-- The bytes of characters in a row. -/
def encoded (text : List Char) : List UInt8 := text.flatMap String.utf8EncodeChar

/-- The bytes of the first character come first. -/
theorem encoded_cons (c : Char) (text : List Char) :
    encoded (c :: text) = String.utf8EncodeChar c ++ encoded text := List.flatMap_cons

/-- The bytes of two texts in a row. -/
theorem encoded_append (a b : List Char) : encoded (a ++ b) = encoded a ++ encoded b :=
  List.flatMap_append

/-- A text of ASCII is as long in bytes as in characters. -/
theorem length_encoded_of_ascii {text : List Char} (h : ∀ c ∈ text, c.toNat < 128) :
    (encoded text).length = text.length := by
  induction text with
  | nil => rfl
  | cons c rest ih =>
    obtain ⟨hc, hrest⟩ := List.forall_mem_cons.mp h
    rw [encoded_cons, List.length_append, utf8EncodeChar_of_ascii hc, ih hrest,
      List.length_singleton, List.length_cons, Nat.add_comm]

/-- Only the empty text has no bytes. -/
theorem length_encoded_pos_iff {text : List Char} : 0 < (encoded text).length ↔ text ≠ [] := by
  cases text with
  | nil => simp [encoded]
  | cons c rest =>
    have hsize := c.utf8Size_pos
    rw [encoded_cons, List.length_append, String.length_utf8EncodeChar]
    simp only [ne_eq, reduceCtorEq, not_false_eq_true, iff_true]
    omega

/-- A text cut behind its first bytes; none if they end inside a character or are not there. -/
def splitBytes? : ℕ → List Char → Option (List Char × List Char)
  | 0, text => some ([], text)
  | _ + 1, [] => none
  | n + 1, c :: rest =>
    if c.utf8Size ≤ n + 1 then
      (splitBytes? (n + 1 - c.utf8Size) rest).map fun parts => (c :: parts.1, parts.2)
    else none

/-- A text is cut behind the first bytes exactly if they are those of its first characters. -/
theorem splitBytes?_eq_some_iff {n : ℕ} {text front back : List Char} :
    splitBytes? n text = some (front, back) ↔ text = front ++ back ∧ (encoded front).length = n := by
  fun_induction splitBytes? n text generalizing front with
  | case1 text =>
    constructor
    · intro h
      cases h
      exact ⟨rfl, rfl⟩
    · rintro ⟨rfl, hlength⟩
      cases front with
      | nil => rfl
      | cons c front =>
        have hpos := c.utf8Size_pos
        rw [encoded_cons, List.length_append, String.length_utf8EncodeChar] at hlength
        omega
  | case2 n =>
    refine ⟨nofun, ?_⟩
    rintro ⟨htext, hlength⟩
    obtain ⟨rfl, -⟩ := List.append_eq_nil_iff.mp htext.symm
    cases hlength
  | case3 n c rest hfits ih =>
    constructor
    · intro h
      obtain ⟨⟨front', back'⟩, hparts, hpair⟩ := Option.map_eq_some_iff.mp h
      obtain ⟨rfl, rfl⟩ := Prod.mk.inj hpair
      obtain ⟨rfl, hlength⟩ := ih.mp hparts
      refine ⟨rfl, ?_⟩
      rw [encoded_cons, List.length_append, String.length_utf8EncodeChar, hlength]
      omega
    · rintro ⟨htext, hlength⟩
      cases front with
      | nil => cases hlength
      | cons d front =>
        obtain ⟨rfl, rfl⟩ := List.cons.inj htext
        rw [encoded_cons, List.length_append, String.length_utf8EncodeChar] at hlength
        exact Option.map_eq_some_iff.mpr ⟨(front, back), ih.mpr ⟨rfl, by omega⟩, rfl⟩
  | case4 n c rest hfits =>
    refine ⟨nofun, ?_⟩
    rintro ⟨htext, hlength⟩
    cases front with
    | nil => cases hlength
    | cons d front =>
      obtain ⟨rfl, -⟩ := List.cons.inj htext
      rw [encoded_cons, List.length_append, String.length_utf8EncodeChar] at hlength
      omega

/-- A text without its last bytes; none if they begin inside a character or are not there. -/
def withoutLast? (n : ℕ) (text : List Char) : Option (List Char) :=
  if n ≤ (encoded text).length then
    (splitBytes? ((encoded text).length - n) text).map Prod.fst
  else none

/-- A text without the bytes of its end is what stands in front of that. -/
theorem withoutLast?_append (front back : List Char) :
    withoutLast? (encoded back).length (front ++ back) = some front := by
  have hlength : (encoded (front ++ back)).length - (encoded back).length =
      (encoded front).length := by
    rw [encoded_append, List.length_append, Nat.add_sub_cancel]
  have hsplit : splitBytes? (encoded front).length (front ++ back) = some (front, back) :=
    splitBytes?_eq_some_iff.mpr ⟨rfl, rfl⟩
  have hfits : (encoded back).length ≤ (encoded (front ++ back)).length := by
    rw [encoded_append, List.length_append]
    exact Nat.le_add_left _ _
  rw [withoutLast?, if_pos hfits, hlength, hsplit]
  rfl

/-- A character beyond ASCII begins with a byte beyond ASCII. -/
theorem exists_utf8EncodeChar {c : Char} (h : 128 ≤ c.toNat) :
    ∃ b bs, String.utf8EncodeChar c = b :: bs ∧ 128 ≤ b.toNat := by
  have hval : c.toNat = c.val.toNat := rfl
  rw [String.utf8EncodeChar, if_neg (by omega)]
  split
  · exact ⟨_, _, rfl, by rw [UInt8.toNat_ofNat']; omega⟩
  split
  · exact ⟨_, _, rfl, by rw [UInt8.toNat_ofNat']; omega⟩
  · exact ⟨_, _, rfl, by rw [UInt8.toNat_ofNat']; omega⟩

end SchemaForge.Text
