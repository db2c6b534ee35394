import SchemaForge.Proofs.Migration.Name
import SchemaForge.Proofs.Text.Slice

/-!
# Which names have a stamp

A file's name has a stamp exactly if it starts with four digits, two, two and six with an underscore
behind each (`stripStamp?_eq_some_iff`), and the name of a migration's file does exactly if the year
is written with four digits (`stripStamp?_fileNameAt_iff`). The stamp is as long in bytes as in
characters, so it may be taken off by position: `stripByBytes?` looks at the first bytes of a name
and then slices the name behind them. It never slices inside a character and gives the same
(`stripByBytes?_eq`), because a character of several bytes among the first ones fits no place of a
stamp, and if it reaches beyond them they are not looked at.
-/

namespace SchemaForge.Migration

open Moment (digits yearText)
open Text (splitBytes? encoded encoded_cons utf8EncodeChar_of_ascii exists_utf8EncodeChar)

/-! ## The form of a stamp -/

/-- A number of ASCII digits. -/
structure IsDigits (width : ℕ) (text : List Char) : Prop where
  /-- There are as many characters. -/
  length : text.length = width
  /-- Every character is a digit. -/
  isDigit : ∀ c ∈ text, c.isDigit = true

/-- The marks of digits are met by as many digits, and the other marks by what follows them. -/
theorem dropMarks?_digits_iff {width : ℕ} {marks : List StampMark} {text rest : List Char} :
    dropMarks? (List.replicate width .digit ++ marks) text = some rest ↔
      ∃ number more, IsDigits width number ∧ text = number ++ more ∧
        dropMarks? marks more = some rest := by
  constructor
  · intro h
    induction width generalizing text with
    | zero => exact ⟨[], text, ⟨rfl, by simp⟩, rfl, h⟩
    | succ width ih =>
      cases text with
      | nil => cases h
      | cons c text =>
        rw [List.replicate_succ, List.cons_append, dropMarks?] at h
        split at h
        next hc =>
          obtain ⟨number, more, hnumber, rfl, hmore⟩ := ih h
          refine ⟨c :: number, more, ⟨by simp [hnumber.length], ?_⟩, rfl, hmore⟩
          exact List.forall_mem_cons.mpr ⟨hc, hnumber.isDigit⟩
        next => cases h
  · rintro ⟨number, more, hnumber, rfl, hmore⟩
    have hdrop := dropMarks?_digits hnumber.isDigit marks more
    rw [hnumber.length] at hdrop
    rw [hdrop, hmore]

/-- The mark of an underscore is met by one. -/
theorem dropMarks?_underscore_iff {marks : List StampMark} {text rest : List Char} :
    dropMarks? (.underscore :: marks) text = some rest ↔
      ∃ more, text = '_' :: more ∧ dropMarks? marks more = some rest := by
  constructor
  · intro h
    cases text with
    | nil => cases h
    | cons c text =>
      rw [dropMarks?] at h
      split at h
      next hc => exact ⟨text, by rw [hc], h⟩
      next => cases h
  · rintro ⟨more, rfl, hmore⟩
    exact hmore

/-- A name has a stamp exactly if it starts with four digits, two, two and six with an underscore
behind each. -/
theorem stripStamp?_eq_some_iff {name rest : String} :
    stripStamp? name = some rest ↔ ∃ year month day time, IsDigits 4 year ∧ IsDigits 2 month ∧
      IsDigits 2 day ∧ IsDigits 6 time ∧ name.toList =
        year ++ '_' :: (month ++ '_' :: (day ++ '_' :: (time ++ '_' :: rest.toList))) := by
  have hmarks : stampMarks =
      List.replicate 4 .digit ++ .underscore :: (List.replicate 2 .digit ++ .underscore ::
        (List.replicate 2 .digit ++ .underscore :: (List.replicate 6 .digit ++ [.underscore]))) :=
    rfl
  have hend : ∀ more rest, dropMarks? [] more = some rest ↔ more = rest :=
    fun _ _ => Option.some_inj
  have hrest : stripStamp? name = some rest ↔
      dropMarks? stampMarks name.toList = some rest.toList := by
    rw [stripStamp?, Option.map_eq_some_iff]
    constructor
    · rintro ⟨more, hmore, rfl⟩
      rw [String.toList_ofList, hmore]
    · exact fun h => ⟨rest.toList, h, String.ofList_toList⟩
  rw [hrest, hmarks]
  simp only [dropMarks?_digits_iff, dropMarks?_underscore_iff, hend]
  constructor
  · rintro ⟨year, _, hyear, hname, _, rfl, month, _, hmonth, rfl, _, rfl, day, _, hday, rfl, _, rfl,
      time, _, htime, rfl, _, rfl, rfl⟩
    exact ⟨year, month, day, time, hyear, hmonth, hday, htime, hname⟩
  · rintro ⟨year, month, day, time, hyear, hmonth, hday, htime, hname⟩
    exact ⟨year, _, hyear, hname, _, rfl, month, _, hmonth, rfl, _, rfl, day, _, hday, rfl, _, rfl,
      time, _, htime, rfl, _, rfl, rfl⟩

/-! ## Stamps of migrations -/

/-- A number that is written with a width is that many digits. -/
theorem isDigits_digits (width n : ℕ) : IsDigits width (digits width n) :=
  ⟨Moment.length_digits width n, fun _ hc => Moment.isDigit_of_mem_digits hc⟩

/-- Digits in a row are the digits of one number. -/
theorem IsDigits.append {m n : ℕ} {front back : List Char} (hfront : IsDigits m front)
    (hback : IsDigits n back) : IsDigits (m + n) (front ++ back) := by
  refine ⟨by rw [List.length_append, hfront.length, hback.length], ?_⟩
  exact List.forall_mem_append.mpr ⟨hfront.isDigit, hback.isDigit⟩

/-- The name of a migration's file when the clock shows a given second of a moment's minute. -/
def fileNameAt (m : Moment) (second : ℕ) (a : Action) (table : String) : String :=
  String.ofList (yearText m.year ++ '_' :: digits 2 m.month ++ '_' :: digits 2 m.day ++
    '_' :: digits 2 m.hour ++ digits 2 m.minute ++ digits 2 second) ++ "_" ++ suffix a table

/-- The clock shows the second of the moment itself unless it is a leap second. -/
theorem fileNameAt_second (m : Moment) (a : Action) (table : String) :
    fileNameAt m m.second a table = fileName m a table := by
  rw [fileName, Moment.stamp_eq, fileNameAt]

/-- The suffix is read from the name of a migration's file exactly if the year has four digits,
whatever second the clock shows. -/
theorem stripStamp?_fileNameAt_iff (m : Moment) (second : ℕ) (a : Action) (table : String) :
    stripStamp? (fileNameAt m second a table) = some (suffix a table) ↔ m.HasPlainYear := by
  rw [stripStamp?_eq_some_iff]
  constructor
  · rintro ⟨year, _, _, _, hyear, -, -, -, hname⟩
    by_contra hplain
    -- Any other year has a sign in front, where the name would have a digit.
    have hsigned : ¬(0 ≤ m.year ∧ m.year ≤ 9999) := hplain
    obtain ⟨c, more, rfl⟩ := List.exists_cons_of_length_eq_add_one hyear.length
    have hdigit := hyear.isDigit c List.mem_cons_self
    have hhead := congrArg List.head? hname
    simp only [fileNameAt, yearText, if_neg hsigned, String.toList_append, String.toList_ofList,
      List.cons_append, List.head?_cons, Option.some_inj] at hhead
    subst hhead
    split at hdigit <;> cases hdigit
  · intro hplain
    have hyear : 0 ≤ m.year ∧ m.year ≤ 9999 := hplain
    refine ⟨digits 4 m.year.toNat, digits 2 m.month, digits 2 m.day,
      digits 2 m.hour ++ digits 2 m.minute ++ digits 2 second, isDigits_digits 4 _,
      isDigits_digits 2 _, isDigits_digits 2 _,
      ((isDigits_digits 2 _).append (isDigits_digits 2 _)).append (isDigits_digits 2 _), ?_⟩
    simp [fileNameAt, yearText, hyear]

/-! ## Stamps by position -/

/-- The places in a stamp that have an underscore. -/
def IsUnderscorePlace (i : ℕ) : Prop := i = 4 ∨ i = 7 ∨ i = 10 ∨ i = 17

instance (i : ℕ) : Decidable (IsUnderscorePlace i) := inferInstanceAs (Decidable (_ ∨ _))

/-- The mark at a place of a stamp. -/
def markAt (i : ℕ) : StampMark := if IsUnderscorePlace i then .underscore else .digit

/-- Whether a character fits a place of a stamp. -/
def charFits (i : ℕ) (c : Char) : Bool := if IsUnderscorePlace i then c == '_' else c.isDigit

/-- Whether a byte fits a place of a stamp. -/
def byteFits (i : ℕ) (b : UInt8) : Bool :=
  if IsUnderscorePlace i then b == '_'.toUInt8 else '0'.toUInt8 ≤ b && b ≤ '9'.toUInt8

/-- Whether bytes fit the places of a stamp from a given one on. -/
def bytesFit (start : ℕ) (bytes : List UInt8) : Bool :=
  (bytes.zipIdx start).all fun byte => byteFits byte.2 byte.1

/-- What follows the stamp of a name, by position: the first 18 bytes are looked at if they are
there and end with a character, and the name is sliced behind them if they fit. The answer is none
if the name is sliced inside a character. -/
def stripByBytes? (name : String) : Option (Option String) :=
  match splitBytes? 18 name.toList with
  | none => some none
  | some (front, _) =>
    if bytesFit 0 (encoded front) then
      (splitBytes? 18 name.toList).map fun parts => some (String.ofList parts.2)
    else some none

/-- A character beyond ASCII fits no place. -/
theorem charFits_eq_false {c : Char} (h : 128 ≤ c.toNat) (i : ℕ) : charFits i c = false := by
  have hval : c.toNat = c.val.toNat := rfl
  have hunderscore : c ≠ '_' := by
    rintro rfl
    revert h
    decide
  rw [charFits]
  split
  · simpa using hunderscore
  · simp only [Char.isDigit, Bool.and_eq_false_iff, decide_eq_false_iff_not, ge_iff_le,
      UInt32.le_iff_toNat_le]
    right
    have hnine : '9'.val.toNat = 57 := rfl
    omega

/-- A byte beyond ASCII fits no place. -/
theorem byteFits_eq_false {b : UInt8} (h : 128 ≤ b.toNat) (i : ℕ) : byteFits i b = false := by
  rw [byteFits]
  split
  · have hunderscore : b ≠ '_'.toUInt8 := by
      rintro rfl
      revert h
      decide
    simpa using hunderscore
  · have hnine : '9'.toUInt8.toNat = 57 := rfl
    simp only [Bool.and_eq_false_iff, decide_eq_false_iff_not, UInt8.le_iff_toNat_le]
    right
    omega

/-- A character of ASCII fits a place exactly if its byte does. -/
theorem byteFits_ofNat {c : Char} (h : c.toNat < 128) (i : ℕ) :
    byteFits i (UInt8.ofNat c.toNat) = charFits i c := by
  have hval : c.toNat = c.val.toNat := rfl
  have hbyte : (UInt8.ofNat c.toNat).toNat = c.toNat := by
    rw [UInt8.toNat_ofNat']
    omega
  rw [byteFits, charFits]
  split
  · rw [Bool.eq_iff_iff, beq_iff_eq, beq_iff_eq, ← UInt8.toNat_inj, hbyte]
    exact ⟨fun hc => Char.toNat_inj.mp hc, fun hc => by rw [hc]; rfl⟩
  · have hzero : '0'.toUInt8.toNat = 48 ∧ '0'.val.toNat = 48 := ⟨rfl, rfl⟩
    have hnine : '9'.toUInt8.toNat = 57 ∧ '9'.val.toNat = 57 := ⟨rfl, rfl⟩
    simp only [Char.isDigit, ge_iff_le, UInt8.le_iff_toNat_le, UInt32.le_iff_toNat_le, hbyte,
      hzero, hnine, ← hval]

/-- The marks from a place on are dropped one by one. -/
theorem dropMarks?_markAt (i : ℕ) (marks : List StampMark) (c : Char) (rest : List Char) :
    dropMarks? (markAt i :: marks) (c :: rest) =
      if charFits i c then dropMarks? marks rest else none := by
  rw [markAt, charFits]
  split
  · simp only [dropMarks?, beq_iff_eq]
  · simp only [dropMarks?]

/-- Looking at marks is looking at as many bytes, if these end with a character. -/
theorem dropMarks?_eq_bytes (width : ℕ) (start : ℕ) (text : List Char) :
    dropMarks? ((List.range' start width).map markAt) text =
      (splitBytes? width text).bind fun parts =>
        if bytesFit start (encoded parts.1) then some parts.2 else none := by
  induction width generalizing start text with
  | zero => simp [dropMarks?, splitBytes?, bytesFit, encoded]
  | succ width ih =>
    cases text with
    | nil => rfl
    | cons c rest =>
      rw [List.range'_succ, List.map_cons, dropMarks?_markAt]
      rcases lt_or_ge c.toNat 128 with hascii | hwide
      · -- One byte stands for one mark, and the others are met by what follows it.
        have hencode := utf8EncodeChar_of_ascii hascii
        have hsize : c.utf8Size = 1 := by
          rw [← String.length_utf8EncodeChar, hencode]
          rfl
        have hfit (text : List Char) : bytesFit start (encoded (c :: text)) =
            (charFits start c && bytesFit (start + 1) (encoded text)) := by
          rw [encoded_cons, hencode, List.singleton_append, bytesFit, List.zipIdx_cons,
            List.all_cons, byteFits_ofNat hascii, bytesFit]
        have hsplit : splitBytes? (width + 1) (c :: rest) =
            (splitBytes? width rest).map fun parts => (c :: parts.1, parts.2) := by
          rw [splitBytes?, hsize, if_pos (Nat.le_add_left 1 width), Nat.add_sub_cancel]
        rw [hsplit, ih, Option.bind_map, Function.comp_def]
        cases hfirst : charFits start c <;> simp [hfit, hfirst]
      · -- The first byte of a wide character fits no place, wherever the character ends.
        obtain ⟨b, bs, hencode, hb⟩ := exists_utf8EncodeChar hwide
        have hfit (text : List Char) : bytesFit start (encoded (c :: text)) = false := by
          rw [encoded_cons, hencode, List.cons_append, bytesFit, List.zipIdx_cons, List.all_cons,
            byteFits_eq_false hb, Bool.false_and]
        rw [charFits_eq_false hwide, if_neg Bool.false_ne_true, splitBytes?]
        split
        · rw [Option.bind_map, Function.comp_def]
          simp [hfit]
        · rfl

/-- Taking the stamp off by position never slices inside a character, and gives what is found mark
by mark. -/
theorem stripByBytes?_eq (name : String) : stripByBytes? name = some (stripStamp? name) := by
  have hmarks : stampMarks = (List.range' 0 18).map markAt := by decide
  rw [stripStamp?, hmarks, dropMarks?_eq_bytes, stripByBytes?]
  cases splitBytes? 18 name.toList with
  | none => rfl
  | some parts =>
    dsimp only [Option.bind_some]
    split <;> rfl

/-- Stamps are recognized exactly. Taking one off by position never slices a name inside a character
and gives what is found mark by mark; a name has one exactly if it starts with four digits, two, two
and six with an underscore behind each, and then the rest of the name is what follows; and the
suffix of a migration is read from the name of its file exactly if the year has four digits, also in
a leap second, which the clock shows as the second after. -/
theorem stripStamp?_exact :
    (∀ name, stripByBytes? name = some (stripStamp? name)) ∧
    (∀ name rest, stripStamp? name = some rest ↔ ∃ year month day time, IsDigits 4 year ∧
      IsDigits 2 month ∧ IsDigits 2 day ∧ IsDigits 6 time ∧ name.toList =
        year ++ '_' :: (month ++ '_' :: (day ++ '_' :: (time ++ '_' :: rest.toList)))) ∧
    ∀ (m : Moment) (a : Action) (table : String),
      (stripStamp? (fileName m a table) = some (suffix a table) ↔ m.HasPlainYear) ∧
      (stripStamp? (fileNameAt m (m.second + 1) a table) = some (suffix a table) ↔
        m.HasPlainYear) := by
  refine ⟨stripByBytes?_eq, fun name rest => stripStamp?_eq_some_iff, fun m a table => ⟨?_, ?_⟩⟩
  · rw [← fileNameAt_second]
    exact stripStamp?_fileNameAt_iff m m.second a table
  · exact stripStamp?_fileNameAt_iff m (m.second + 1) a table

/-- A name whose eighteenth byte is inside a character has no stamp, and one that ends with its stamp
is left empty. -/
example : stripByBytes? "2024_03_07_090542écreate_users.php" = some none ∧
    stripByBytes? "2024_03_07_090542_" = some (some "") := by
  decide +kernel

end SchemaForge.Migration
