import SchemaForge.Proofs.Text.Camel
import SchemaForge.Migration.Name

/-!
# The class of a migration has a legal name

The class of a migration is named by an action's keyword and a table's name, which may be any text.
An underscore stands between the two, so the name of the table cannot reach into the keyword, and
the class is named by the upper camel case of each (`className_eq`). The keyword gives the capital
in front. Of an ASCII table nothing else than letters and digits is left, so the class can be
declared (`className_legal`).
-/

namespace SchemaForge.Migration

/-- A class is named by its action's keyword and then its table, each in upper camel case. -/
theorem className_eq (a : Action) (table : String) :
    className a table = Text.upperCamel a.keyword ++ Text.upperCamel table :=
  Text.upperCamel_append_separator (c := '_') (by decide +kernel) a.keyword table

/-- The upper camel case of a keyword starts with a capital. -/
theorem exists_capital_keyword (a : Action) :
    ∃ c rest, (Text.upperCamel a.keyword).toList = c :: rest ∧ c.isUpper = true := by
  have hstart : ((Text.upperCamel a.keyword).toList.head?.any Char.isUpper) = true := by
    cases a <;> decide +kernel
  cases hname : (Text.upperCamel a.keyword).toList with
  | nil => rw [hname] at hstart; cases hstart
  | cons c rest =>
    rw [hname] at hstart
    exact ⟨c, rest, rfl, hstart⟩

/-- A keyword is in ASCII. -/
theorem keyword_ascii (a : Action) : ∀ c ∈ a.keyword.toList, c.toNat < 128 :=
  Text.forall_of_all (by cases a <;> decide)

/-- The class of a migration of a table with an ASCII name has a legal name, whatever the characters
of the table's name: it has letters and digits only, a capital comes first, and it is the upper
camel case of the action's keyword followed by that of the table's name. No letter or digit of the
two is lost: up to case the class has them all, in order. -/
theorem className_legal (a : Action) {table : String} (h : ∀ c ∈ table.toList, c.toNat < 128) :
    (∀ c ∈ (className a table).toList, c.isAlphanum = true) ∧
    (∃ c rest, (className a table).toList = c :: rest ∧ c.isUpper = true) ∧
    className a table = Text.upperCamel a.keyword ++ Text.upperCamel table ∧
    (className a table).toList.map Char.toLower =
      ((a.keyword ++ table).toList.filter Char.isAlphanum).map Char.toLower := by
  have hname : (className a table).toList =
      (Text.upperCamel a.keyword).toList ++ (Text.upperCamel table).toList := by
    rw [className_eq, String.toList_append]
  refine ⟨fun c hc => ?_, ?_, className_eq a table, ?_⟩
  · rw [hname] at hc
    rcases List.mem_append.mp hc with hc | hc
    · exact Text.upperCamel_isAlphanum (keyword_ascii a) c hc
    · exact Text.upperCamel_isAlphanum h c hc
  · obtain ⟨c, rest, hkeyword, hupper⟩ := exists_capital_keyword a
    refine ⟨c, rest ++ (Text.upperCamel table).toList, ?_, hupper⟩
    rw [hname, hkeyword, List.cons_append]
  · rw [hname, List.map_append, Text.map_toLower_upperCamel (keyword_ascii a),
      Text.map_toLower_upperCamel h, String.toList_append, List.filter_append, List.map_append]

/-- A table whose name has a digit in front, a quote, braces, a dot and capitals in a row. -/
theorem className_legal_mixed :
    let table := "2nd o'Brien.\x7bHTTPServer\x7d \"log\""
    (∀ c ∈ table.toList, c.toNat < 128) ∧
      className .createTrigger table = "CreateTrigger2ndOBrienHttpServerLog" ∧
      (∀ c ∈ (className .createTrigger table).toList, c.isAlphanum = true) ∧
      (∃ c rest, (className .createTrigger table).toList = c :: rest ∧ c.isUpper = true) ∧
      className .createTrigger table =
        Text.upperCamel Action.createTrigger.keyword ++ Text.upperCamel table ∧
      (className .createTrigger table).toList.map Char.toLower =
        ((Action.createTrigger.keyword ++ table).toList.filter Char.isAlphanum).map
          Char.toLower := by
  intro table
  have hascii : ∀ c ∈ table.toList, c.toNat < 128 := Text.forall_of_all (by decide)
  exact ⟨hascii, by decide +kernel, className_legal .createTrigger hascii⟩

end SchemaForge.Migration
