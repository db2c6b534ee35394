import Mathlib.Tactic.Common
import SchemaForge.Migration.Name
import SchemaForge.Proofs.Calendar.Moment
import SchemaForge.Proofs.Storage.Place
import SchemaForge.Proofs.Text.Camel
import SchemaForge.Seeder.Registry

/-!
# Names of generated files

A migration's file has its suffix after the stamp, so taking the stamp off gives the suffix back
(`stripStamp?_fileName`) for every year that is written with four digits. The file of a seeder has
no underscore and so no stamp (`stripStamp?_seeder`). Both are names of entries, and no two suffixes
are read from one file.
-/

namespace SchemaForge

open Text (IsPlain)

/-! ## Stamps -/

namespace Moment

/-- The year of a moment is written with four digits. -/
def HasPlainYear (m : Moment) : Prop := 0 ≤ m.year ∧ m.year ≤ 9999

instance (m : Moment) : Decidable m.HasPlainYear := inferInstanceAs (Decidable (_ ∧ _))

/-- A number is written with digits only. -/
theorem isDigit_of_mem_digits {width n : ℕ} {c : Char} (h : c ∈ digits width n) :
    c.isDigit = true := by
  induction width generalizing n with
  | zero => cases h
  | succ width ih =>
    rcases List.mem_append.mp h with h | h
    · exact ih h
    · rw [List.mem_singleton.mp h, Nat.isDigit_digitChar]
      simp [Nat.mod_lt]

/-- A number is written with the asked number of digits. -/
theorem length_digits (width n : ℕ) : (digits width n).length = width := by
  induction width generalizing n with
  | zero => rfl
  | succ width ih => simp [digits, ih]

/-- A stamp has no slash. -/
theorem noSlash_stamp (m : Moment) : '/' ∉ m.stamp := by
  have hdigits : ∀ width n, '/' ∉ digits width n := fun width n h => by
    cases isDigit_of_mem_digits h
  have hyear : '/' ∉ yearText m.year := by
    rw [yearText]
    split
    · exact hdigits 4 _
    · intro h
      rcases List.mem_cons.mp h with h | h
      · split at h <;> cases h
      · rw [List.leftpad] at h
        rcases List.mem_append.mp h with h | h
        · cases List.eq_of_mem_replicate h
        · cases Nat.isDigit_of_mem_toDigits (by decide) (by decide) h
  simp [stamp_eq, hyear, hdigits]

end Moment

namespace Migration

/-- Digits are dropped for as many marks of digits. -/
theorem dropMarks?_digits {digits : List Char} (h : ∀ c ∈ digits, c.isDigit = true)
    (marks : List StampMark) (rest : List Char) :
    dropMarks? (List.replicate digits.length .digit ++ marks) (digits ++ rest) =
      dropMarks? marks rest := by
  induction digits with
  | nil => rfl
  | cons c digits ih =>
    obtain ⟨hc, hdigits⟩ := List.forall_mem_cons.mp h
    simp only [List.length_cons, List.replicate_succ, List.cons_append, dropMarks?, if_pos hc]
    exact ih hdigits

/-- The marks of a stamp are those of its numbers with underscores between. -/
theorem stampMarks_eq : stampMarks =
    List.replicate 4 .digit ++ .underscore :: (List.replicate 2 .digit ++ .underscore ::
      (List.replicate 2 .digit ++ .underscore :: (List.replicate 2 .digit ++
        (List.replicate 2 .digit ++ (List.replicate 2 .digit ++ [.underscore]))))) := rfl

/-- The number of a stamp is dropped for the marks of its digits. -/
theorem dropMarks?_number (width n : ℕ) (marks : List StampMark) (rest : List Char) :
    dropMarks? (List.replicate width .digit ++ marks) (Moment.digits width n ++ rest) =
      dropMarks? marks rest := by
  have hdigits : ∀ c ∈ Moment.digits width n, c.isDigit = true :=
    fun c hc => Moment.isDigit_of_mem_digits hc
  have h := dropMarks?_digits hdigits marks rest
  rwa [Moment.length_digits] at h

/-- An underscore is dropped for its mark. -/
theorem dropMarks?_underscore (marks : List StampMark) (rest : List Char) :
    dropMarks? (.underscore :: marks) ('_' :: rest) = dropMarks? marks rest := rfl

/-- A stamp with a year of four digits is dropped with the underscore after it. -/
theorem dropMarks?_stamp {m : Moment} (h : m.HasPlainYear) (rest : List Char) :
    dropMarks? stampMarks (m.stamp ++ '_' :: rest) = some rest := by
  have hyear : 0 ≤ m.year ∧ m.year ≤ 9999 := h
  rw [Moment.stamp_eq, Moment.yearText, if_pos hyear, stampMarks_eq]
  simp only [List.append_assoc, List.cons_append, dropMarks?_number, dropMarks?_underscore]
  rfl

/-- The name of a migration's file without its stamp is the suffix. -/
theorem stripStamp?_fileName {m : Moment} (h : m.HasPlainYear) (a : Action) (table : String) :
    stripStamp? (fileName m a table) = some (suffix a table) := by
  have hname : (fileName m a table).toList = m.stamp ++ '_' :: (suffix a table).toList := by
    simp [fileName]
  rw [stripStamp?, hname, dropMarks?_stamp h]
  simp

/-- Whatever the year of its stamp, nothing but the suffix is read from the name of a migration's
file. -/
theorem eq_suffix_of_stripStamp? {m : Moment} {a : Action} {table rest : String}
    (h : stripStamp? (fileName m a table) = some rest) : rest = suffix a table := by
  by_cases hyear : m.HasPlainYear
  · rw [stripStamp?_fileName hyear] at h
    exact (Option.some.inj h).symm
  · -- Any other year has a sign in front, which is no digit.
    have hyear' : ¬(0 ≤ m.year ∧ m.year ≤ 9999) := hyear
    have hsign : ∃ c, (fileName m a table).toList.head? = some c ∧ c.isDigit = false := by
      refine ⟨if m.year < 0 then '-' else '+', ?_, by split <;> rfl⟩
      simp [fileName, Moment.stamp_eq, Moment.yearText, if_neg hyear']
    obtain ⟨c, hhead, hdigit⟩ := hsign
    obtain ⟨more, hname⟩ := List.head?_eq_some_iff.mp hhead
    rw [stripStamp?, hname, stampMarks, dropMarks?, hdigit] at h
    cases h

/-- A name without an underscore has no stamp. -/
theorem stripStamp?_of_noUnderscore {name : String} (h : '_' ∉ name.toList) :
    stripStamp? name = none := by
  have hdrop : ∀ (marks : List StampMark) (text : List Char), .underscore ∈ marks →
      '_' ∉ text → dropMarks? marks text = none := by
    intro marks text hmarks htext
    -- The marks that are left end in an underscore, which the text cannot match.
    fun_induction dropMarks? marks text with
    | case1 => cases hmarks
    | case2 => rfl
    | case3 marks c rest hc ih =>
      exact ih (by simpa using hmarks) (fun hin => htext (List.mem_cons_of_mem _ hin))
    | case4 => rfl
    | case5 marks c rest => simp at htext
    | case6 => rfl
  rw [stripStamp?, hdrop stampMarks name.toList (by decide) h]
  rfl

/-! ## Names of entries -/

/-- The name of a migration's file is the name of an entry if that of its table has no slash. -/
theorem isEntryName_fileName (m : Moment) (a : Action) {table : String}
    (h : '/' ∉ table.toList) : IsEntryName (fileName m a table) := by
  have hkeyword : '/' ∉ a.keyword.toList := by cases a <;> decide
  apply isEntryName_of_length
  · simp [fileName, suffix, codeExtension, m.noSlash_stamp, hkeyword, h]
  · simp [fileName, suffix, codeExtension]
    omega

end Migration

/-! ## Seeders -/

namespace Seeder

/-- The singular of a word has its letters, and perhaps a `y`. -/
theorem mem_singularChars {word : List Char} {c : Char} (h : c ∈ singularChars word) :
    c ∈ word ∨ c = 'y' := by
  unfold singularChars at h
  split at h
  · rcases List.mem_append.mp h with h | h
    · exact .inl (List.mem_of_mem_dropLast (List.mem_of_mem_dropLast (List.mem_of_mem_dropLast h)))
    · exact .inr (List.mem_singleton.mp h)
  · split at h
    · exact .inl (List.mem_of_mem_dropLast (List.mem_of_mem_dropLast h))
    · split at h
      · exact .inl h
      · split at h
        · exact .inl (List.mem_of_mem_dropLast h)
        · exact .inl h

/-- The name of a model is plain. -/
theorem modelName_plain (table : String) : ∀ c ∈ (modelName table).toList, IsPlain c := by
  intro c hc
  rw [modelName, singular, String.toList_ofList] at hc
  rcases mem_singularChars hc with hc | rfl
  · exact Text.upperCamel_plain table c hc
  · decide

/-- The name of a table's seeder is plain. -/
theorem className_plain (table : String) : ∀ c ∈ (className table).toList, IsPlain c := by
  intro c hc
  rw [className, String.toList_append] at hc
  rcases List.mem_append.mp hc with hc | hc
  · exact modelName_plain table c hc
  · have hseeder : ∀ c ∈ "Seeder".toList, IsPlain c := Text.plain_of_all (by decide)
    exact hseeder c hc

/-- The name of the root seeder is plain. -/
theorem rootClass_plain : ∀ c ∈ rootClass.toList, IsPlain c :=
  Text.plain_of_all (by decide)

/-- The name of the application's seeder is plain. -/
theorem databaseClass_plain : ∀ c ∈ databaseClass.toList, IsPlain c :=
  Text.plain_of_all (by decide)

/-- The file of a plainly named seeder has the name of an entry. -/
theorem isEntryName_fileName {name : String} (h : ∀ c ∈ name.toList, IsPlain c) :
    IsEntryName (fileName name) := by
  have hslash : '/' ∉ name.toList := fun hin => absurd (h _ hin) (by decide)
  apply isEntryName_of_length
  · simp [fileName, codeExtension, hslash]
  · simp [fileName, codeExtension]

/-- The file of a plainly named seeder has no underscore in its name. -/
theorem noUnderscore_fileName {name : String} (h : ∀ c ∈ name.toList, IsPlain c) :
    '_' ∉ (fileName name).toList := by
  have hunderscore : '_' ∉ name.toList := fun hin => absurd (h _ hin) (by decide)
  simp [fileName, codeExtension, hunderscore]

/-- The file of a plainly named seeder has no stamp. -/
theorem stripStamp?_seeder {name : String} (h : ∀ c ∈ name.toList, IsPlain c) :
    Migration.stripStamp? (fileName name) = none :=
  Migration.stripStamp?_of_noUnderscore (noUnderscore_fileName h)

/-- The file of a plainly named seeder has another name than that of any migration. -/
theorem fileName_ne_migration {name : String} (h : ∀ c ∈ name.toList, IsPlain c) (m : Moment)
    (a : Action) (table : String) : fileName name ≠ Migration.fileName m a table := by
  intro hsame
  have hunderscore : '_' ∈ (Migration.fileName m a table).toList := by simp [Migration.fileName]
  exact noUnderscore_fileName h (hsame ▸ hunderscore)

end Seeder

end SchemaForge
