import SchemaForge.Proofs.Seeder.RunBody
import SchemaForge.Proofs.Seeder.Singular

/-!
# Which seeders have a legal name

The class of a table's seeder is named by the singular of the table's upper camel case, with nothing
in front of it. The seeder of an ASCII table has letters and digits only in its name, and the name
starts, up to case, with the first letter or digit of the table (`exists_head?_className`). So it is
legal exactly if that is a letter (`isIdentifier_className_iff`). A table whose name has a digit in
front of its letters gets a class that cannot be declared (`not_isIdentifier_className`).
-/

namespace SchemaForge.Seeder

variable {name : List Char} {table : String}

/-! ## Legal names -/

/-- A legal name of a class, in ASCII: a letter or an underscore, and behind it any letters, digits
and underscores. -/
def IsIdentifier (name : List Char) : Prop :=
  ∃ c rest, name = c :: rest ∧ (c.isAlpha = true ∨ c = '_') ∧
    ∀ d ∈ rest, d.isAlphanum = true ∨ d = '_'

/-- Letters and digits are a legal name exactly if a letter comes first. -/
theorem isIdentifier_iff_of_isAlphanum (h : ∀ c ∈ name, c.isAlphanum = true) :
    IsIdentifier name ↔ ∃ c, name.head? = some c ∧ c.isAlpha = true := by
  constructor
  · rintro ⟨c, rest, rfl, hc, -⟩
    refine ⟨c, rfl, hc.resolve_right ?_⟩
    rintro rfl
    exact absurd (h '_' List.mem_cons_self) (by decide)
  · rintro ⟨c, hhead, hc⟩
    obtain ⟨rest, rfl⟩ := List.head?_eq_some_iff.mp hhead
    exact ⟨c, rest, rfl, .inl hc, fun d hd => .inl (h d (List.mem_cons_of_mem c hd))⟩

/-- Of the letters and digits, the letters are those that are no digits. -/
theorem isAlpha_eq_not_isDigit {c : Char} (h : c.isAlphanum = true) : c.isAlpha = !c.isDigit :=
  Text.forall_ascii (P := fun c => c.isAlphanum = true → c.isAlpha = !c.isDigit)
    (by decide +kernel) (Text.lt_of_isAlphanum h) h

/-- The small form of a letter or digit is a digit exactly if that is one. -/
theorem isDigit_toLower {c : Char} (h : c.isAlphanum = true) : c.toLower.isDigit = c.isDigit :=
  Text.forall_ascii (P := fun c => c.toLower.isDigit = c.isDigit) (by decide +kernel)
    (Text.lt_of_isAlphanum h)

/-! ## Names of seeders -/

/-- The name of a table's seeder is the singular of the table with the mark of seeders behind it. -/
theorem toList_className (table : String) :
    (className table).toList = singularChars (Text.upperCamel table).toList ++ "Seeder".toList := by
  rw [className, modelName, singular, String.toList_append, String.toList_ofList]

/-- The name of the seeder of an ASCII table has letters and digits only. -/
theorem className_isAlphanum (h : ∀ c ∈ table.toList, c.toNat < 128) :
    ∀ c ∈ (className table).toList, c.isAlphanum = true := by
  intro c hc
  rw [toList_className] at hc
  rcases List.mem_append.mp hc with hc | hc
  · rcases mem_singularChars hc with hc | rfl
    · exact Text.upperCamel_isAlphanum h c hc
    · rfl
  · have hseeder : "Seeder".toList.all Char.isAlphanum = true := by decide
    exact List.all_eq_true.mp hseeder c hc

/-- The name of the seeder of an ASCII table starts, up to case, with the first letter or digit of
the table, or with that of the mark if the table has none. -/
theorem exists_head?_className (h : ∀ c ∈ table.toList, c.toNat < 128) :
    ∃ d, (className table).toList.head? = some d ∧
      d.toLower = ((table.toList.find? Char.isAlphanum).getD 'S').toLower := by
  have hcamel : (Text.upperCamel table).toList.head?.map Char.toLower =
      (table.toList.find? Char.isAlphanum).map Char.toLower :=
    calc (Text.upperCamel table).toList.head?.map Char.toLower
        = ((Text.upperCamel table).toList.map Char.toLower).head? := List.head?_map.symm
      _ = ((table.toList.filter Char.isAlphanum).map Char.toLower).head? := by
          rw [Text.map_toLower_upperCamel h]
      _ = (table.toList.find? Char.isAlphanum).map Char.toLower := by
          rw [List.head?_map, List.head?_filter]
  have hname : (className table).toList.head? =
      (Text.upperCamel table).toList.head?.or (some 'S') := by
    rw [toList_className, List.head?_append, (isSingular_singularChars _).head?_eq]
    rfl
  rw [hname]
  cases hfirst : table.toList.find? Char.isAlphanum with
  | none =>
    rw [hfirst, Option.map_none, Option.map_eq_none_iff] at hcamel
    exact ⟨'S', by rw [hcamel]; rfl, rfl⟩
  | some c =>
    rw [hfirst, Option.map_some] at hcamel
    obtain ⟨d, hd, hlower⟩ := Option.map_eq_some_iff.mp hcamel
    exact ⟨d, by rw [hd]; rfl, hlower⟩

/-- The seeder of a table with an ASCII name has letters and digits only in the name of its class,
and the name is legal exactly if no digit is the first of the table's letters and digits. The class
is declared with this name in either case. -/
theorem isIdentifier_className_iff (h : ∀ c ∈ table.toList, c.toNat < 128) :
    (∀ c ∈ (className table).toList, c.isAlphanum = true) ∧
    (IsIdentifier (className table).toList ↔
      ∀ c ∈ table.toList.find? Char.isAlphanum, c.isDigit = false) ∧
    ∀ content, ∃ text, classText .builtin (className table) content = .ok text ∧
      Declares text (className table) := by
  have halnum := className_isAlphanum h
  refine ⟨halnum, ?_, fun content => ?_⟩
  · obtain ⟨d, hd, hlower⟩ := exists_head?_className h
    have hdalnum : d.isAlphanum = true := halnum d (List.mem_of_mem_head? hd)
    have hstart : IsIdentifier (className table).toList ↔
        ((table.toList.find? Char.isAlphanum).getD 'S').toLower.isDigit = false := by
      rw [isIdentifier_iff_of_isAlphanum halnum, hd, ← hlower, isDigit_toLower hdalnum]
      simp [isAlpha_eq_not_isDigit hdalnum]
    rw [hstart]
    cases hfirst : table.toList.find? Char.isAlphanum with
    | none => simp
    | some c =>
      have hcalnum : c.isAlphanum = true := List.find?_some hfirst
      simp [isDigit_toLower hcalnum]
  · have hplain := className_plain table
    refine ⟨_, classText_eq_layout hplain content, ?_⟩
    exact declares_classLayout (noBreak_of_plain hplain) _

/-- A table whose name has quotes, a dot, a digit behind letters, a space and a plural. -/
theorem isIdentifier_className_quoted :
    let table := "\"civicrm.2nd boxes\""
    (∀ c ∈ table.toList, c.toNat < 128) ∧ className table = "Civicrm2ndBoxSeeder" ∧
      table.toList.find? Char.isAlphanum = some 'c' ∧ IsIdentifier (className table).toList := by
  intro table
  have hascii : ∀ c ∈ table.toList, c.toNat < 128 := Text.forall_of_all (by decide)
  have hfirst : table.toList.find? Char.isAlphanum = some 'c' := by decide
  refine ⟨hascii, by decide +kernel, hfirst, (isIdentifier_className_iff hascii).2.1.mpr ?_⟩
  rw [hfirst]
  rintro c hc
  obtain rfl := Option.some.inj hc
  rfl

/-- The name is not always legal: the seeder of a table `2fa_tokens` starts with the digit. -/
theorem not_isIdentifier_className :
    ¬∀ table : String, (∀ c ∈ table.toList, c.toNat < 128) →
      (∃ c ∈ table.toList, c.isAlphanum = true) → IsIdentifier (className table).toList := by
  intro h
  have hname : className "2fa_tokens" = "2faTokenSeeder" := by decide +kernel
  obtain ⟨c, rest, hchars, hstart, -⟩ :=
    h "2fa_tokens" (Text.forall_of_all (by decide)) ⟨'2', by decide, by decide⟩
  rw [hname] at hchars
  obtain rfl : '2' = c := (List.cons.inj hchars).1
  revert hstart
  decide

end SchemaForge.Seeder
