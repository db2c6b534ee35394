import SchemaForge.Proofs.Migration.Layout

/-!
# Single-quoted literals read back

A single-quoted literal is written in two replacements, of backslashes and then of quotes, which
come to escaping each of the two once (`toList_singleQuoted`). `readQuoted?` reads a literal from
behind its opening quote, the way the generated code is read: a backslash before a quote or a
backslash stands for that character, and any other backslash for itself. The names of fields are
escaped and always read back (`readQuoted?_escape`).
The name of the table goes between the quotes as it is, so its literal is read back only if nothing
in it needs an escape (`Verbatim`): `readQuoted?_verbatim_iff` says this of a name between quotes,
and `tableLiteral_iff` of the bodies that name a table.
-/

/-! ## Writing -/

namespace SchemaForge.Literal

/-- The characters that a single-quoted literal escapes. -/
def singleSpecial (c : Char) : Bool := c == '\\' || c == '\''

/-- Replacing one character is replacing it wherever it stands. -/
theorem replaceAll_singleton (c : Char) (value text : List Char) :
    Text.replaceAll [c] value text = text.flatMap fun d => if d = c then value else [d] := by
  induction text with
  | nil => rfl
  | cons d text ih =>
    rw [List.flatMap_cons, ← ih]
    by_cases h : d = c
    · subst h
      rw [if_pos rfl]
      exact Template.replaceAll_append value (List.cons_ne_nil d []) text
    · have hother : ¬[c] <+: d :: text := fun hp => h (List.singleton_prefix_cons_iff.mp hp).symm
      rw [if_neg h, Template.replaceAll_cons value hother]
      rfl

/-- Escaping the backslashes and then the quotes is escaping each of them once. -/
theorem toList_singleQuoted (text : String) :
    (singleQuoted text).toList = '\'' :: escape singleSpecial text.toList ++ ['\''] := by
  have hescape : ∀ c : Char,
      (if c = '\\' then ['\\', '\\'] else [c]).flatMap
          (fun d => if d = '\'' then ['\\', '\''] else [d]) =
        if singleSpecial c then ['\\', c] else [c] := by
    intro c
    by_cases hbackslash : c = '\\'
    · subst hbackslash
      rfl
    · by_cases hquote : c = '\'' <;> simp [hbackslash, hquote, singleSpecial]
  rw [singleQuoted, String.toList_ofList, replaceAll_singleton, replaceAll_singleton,
    List.flatMap_assoc, escape]
  simp only [hescape]

end SchemaForge.Literal

namespace SchemaForge.Migration

open Literal (escape singleSpecial toList_singleQuoted)
open Template

variable {text value rest : List Char}

/-! ## Reading -/

/-- What a single-quoted literal says, from behind its opening quote, and what follows its closing
one. -/
def readQuoted? : List Char → Option (List Char × List Char)
  | [] => none
  | '\'' :: rest => some ([], rest)
  | '\\' :: '\\' :: rest => (readQuoted? rest).map fun p => ('\\' :: p.1, p.2)
  | '\\' :: '\'' :: rest => (readQuoted? rest).map fun p => ('\'' :: p.1, p.2)
  | c :: rest => (readQuoted? rest).map fun p => (c :: p.1, p.2)

/-- A text that needs no escape between single quotes: it has no quote and no two backslashes in a
row, and does not end in a backslash. -/
structure Verbatim (text : List Char) : Prop where
  /-- No quote ends the literal early. -/
  noQuote : '\'' ∉ text
  /-- No backslash is read as an escape of the next one. -/
  noPair : ¬['\\', '\\'] <:+: text
  /-- The closing quote is not escaped. -/
  noEnd : text.getLast? ≠ some '\\'

/-- A character that is no quote and starts no escape stands for itself. -/
theorem readQuoted?_cons {c : Char} (hquote : c ≠ '\'')
    (hescape : c = '\\' → text.head? ≠ some '\\' ∧ text.head? ≠ some '\'') :
    readQuoted? (c :: text) = (readQuoted? text).map fun p => (c :: p.1, p.2) := by
  rw [readQuoted?.eq_def]
  split <;> simp_all

/-- A literal that goes on says its next character before the rest. -/
theorem exists_of_map_cons {c : Char}
    (h : (readQuoted? text).map (fun p => (c :: p.1, p.2)) = some (value, rest)) :
    ∃ more, value = c :: more ∧ readQuoted? text = some (more, rest) := by
  obtain ⟨⟨more, rest'⟩, hread, hpair⟩ := Option.map_eq_some_iff.mp h
  obtain ⟨rfl, rfl⟩ := Prod.mk.inj hpair
  exact ⟨more, rfl, hread⟩

/-- A literal that goes on is no longer than what is left to read and its next character. -/
theorem length_le_of_map_cons {c : Char}
    (ih : ∀ {more : List Char}, readQuoted? text = some (more, rest) →
      more.length + rest.length < text.length)
    (h : (readQuoted? text).map (fun p => (c :: p.1, p.2)) = some (value, rest)) :
    value.length + rest.length ≤ text.length := by
  obtain ⟨more, rfl, hread⟩ := exists_of_map_cons h
  have hshort := ih hread
  rw [List.length_cons]
  omega

/-- What a literal says and what follows it are shorter than the text that is read: there is the
closing quote, too. -/
theorem length_readQuoted? (h : readQuoted? text = some (value, rest)) :
    value.length + rest.length < text.length := by
  fun_induction readQuoted? text generalizing value with
  | case1 => cases h
  | case2 => cases h; simp
  | case3 tail ih =>
    exact (Nat.lt_succ_of_le (length_le_of_map_cons ih h)).trans (Nat.lt_succ_self _)
  | case4 tail ih =>
    exact (Nat.lt_succ_of_le (length_le_of_map_cons ih h)).trans (Nat.lt_succ_self _)
  | case5 c tail _ _ _ ih => exact Nat.lt_succ_of_le (length_le_of_map_cons ih h)

/-- An escaped text is read back up to the closing quote. -/
theorem readQuoted?_escape (text rest : List Char) :
    readQuoted? (escape singleSpecial text ++ '\'' :: rest) = some (text, rest) := by
  induction text with
  | nil => rfl
  | cons c text ih =>
    rw [escape, List.flatMap_cons, List.append_assoc, ← escape]
    by_cases hspecial : singleSpecial c = true
    · have hc : c = '\\' ∨ c = '\'' := by simpa [singleSpecial] using hspecial
      rw [if_pos hspecial, List.cons_append, List.singleton_append]
      rcases hc with rfl | rfl
      · rw [readQuoted?, ih]
        rfl
      · rw [readQuoted?, ih]
        rfl
    · obtain ⟨hbackslash, hquote⟩ : c ≠ '\\' ∧ c ≠ '\'' := by
        simpa [singleSpecial] using hspecial
      rw [if_neg hspecial, List.singleton_append,
        readQuoted?_cons hquote fun h => absurd h hbackslash, ih]
      rfl

/-! ## Reading what is not escaped -/

/-- The first character of a text stands for itself between quotes: it is no quote and starts no
escape, be it of the closing quote. -/
def StandsFor (c : Char) (text : List Char) : Prop :=
  c ≠ '\'' ∧ (c = '\\' → text ≠ [] ∧ text.head? ≠ some '\\' ∧ text.head? ≠ some '\'')

/-- Behind a character that stands for itself the rest of the text decides. -/
theorem readQuoted?_of_standsFor {c : Char} (h : StandsFor c text) (rest : List Char) :
    readQuoted? (c :: text ++ '\'' :: rest) = some (c :: text, rest) ↔
      readQuoted? (text ++ '\'' :: rest) = some (text, rest) := by
  obtain ⟨hquote, hescape⟩ := h
  have hstart : c = '\\' → (text ++ '\'' :: rest).head? ≠ some '\\' ∧
      (text ++ '\'' :: rest).head? ≠ some '\'' := by
    intro hc
    obtain ⟨hne, hhead⟩ := hescape hc
    rwa [List.head?_append_of_ne_nil _ hne]
  rw [List.cons_append, readQuoted?_cons hquote hstart]
  simp

/-- A text whose first character does not stand for itself is not read back. -/
theorem readQuoted?_ne_of_not_standsFor {c : Char} (h : ¬StandsFor c text) (rest : List Char) :
    readQuoted? (c :: text ++ '\'' :: rest) ≠ some (c :: text, rest) := by
  intro hread
  by_cases hquote : c = '\''
  · -- The literal ends before the text begins.
    subst hquote
    rw [List.cons_append, readQuoted?] at hread
    cases hread
  obtain ⟨rfl, hnext⟩ : c = '\\' ∧
      (text ≠ [] → text.head? ≠ some '\\' → text.head? = some '\'') := by
    simpa [StandsFor, hquote] using h
  cases text with
  | nil =>
    rw [List.singleton_append, readQuoted?] at hread
    obtain ⟨more, hmore, -⟩ := exists_of_map_cons hread
    cases hmore
  | cons d text =>
    by_cases hd : d = '\\'
    · -- Two backslashes say one, so the literal would say more than is left to read.
      subst hd
      rw [List.cons_append, List.cons_append, readQuoted?] at hread
      obtain ⟨more, hmore, htail⟩ := exists_of_map_cons hread
      obtain rfl := List.tail_eq_of_cons_eq hmore
      have hshort := length_readQuoted? htail
      simp only [List.length_cons, List.length_append] at hshort
      omega
    · obtain rfl : d = '\'' := by simpa [hd] using hnext
      rw [List.cons_append, List.cons_append, readQuoted?] at hread
      obtain ⟨more, hmore, -⟩ := exists_of_map_cons hread
      cases hmore

/-- A text needs no escape exactly if its first character stands for itself and the rest needs
none. -/
theorem verbatim_cons_iff {c : Char} :
    Verbatim (c :: text) ↔ StandsFor c text ∧ Verbatim text := by
  constructor
  · intro h
    refine ⟨⟨fun hc => h.noQuote (by simp [hc]), fun hc => ⟨?_, ?_, ?_⟩⟩, ?_, ?_, ?_⟩
    · rintro rfl
      exact h.noEnd (by simp [hc])
    · intro hhead
      obtain ⟨tail, rfl⟩ := List.head?_eq_some_iff.mp hhead
      exact h.noPair ⟨[], tail, by simp [hc]⟩
    · intro hhead
      exact h.noQuote (List.mem_cons_of_mem c (List.mem_of_head? hhead))
    · exact fun hin => h.noQuote (List.mem_cons_of_mem c hin)
    · exact fun hin => h.noPair (List.infix_cons hin)
    · intro hend
      obtain ⟨front, rfl⟩ := List.getLast?_eq_some_iff.mp hend
      exact h.noEnd (by rw [← List.cons_append, List.getLast?_concat])
  · rintro ⟨⟨hquote, hescape⟩, h⟩
    refine ⟨?_, ?_, ?_⟩
    · intro hin
      rcases List.mem_cons.mp hin with heq | hin
      · exact hquote heq.symm
      · exact h.noQuote hin
    · intro hin
      rcases List.infix_cons_iff.mp hin with ⟨more, hmore⟩ | hin
      · obtain ⟨rfl, rfl⟩ : '\\' = c ∧ '\\' :: more = text := by simpa using hmore
        exact (hescape rfl).2.1 rfl
      · exact h.noPair hin
    · intro hend
      cases text with
      | nil =>
        obtain rfl : c = '\\' := by simpa using hend
        exact (hescape rfl).1 rfl
      | cons d text => exact h.noEnd (by simpa using hend)

/-- A text between quotes is read back, up to the closing quote, exactly if it needs no escape. -/
theorem readQuoted?_verbatim_iff (text rest : List Char) :
    readQuoted? (text ++ '\'' :: rest) = some (text, rest) ↔ Verbatim text := by
  induction text with
  | nil =>
    have hempty : Verbatim [] := ⟨List.not_mem_nil, by simp, by simp⟩
    simp [readQuoted?, hempty]
  | cons c text ih =>
    rw [verbatim_cons_iff]
    by_cases hfirst : StandsFor c text
    · rw [readQuoted?_of_standsFor hfirst, ih, and_iff_right hfirst]
    · exact ⟨fun h => absurd h (readQuoted?_ne_of_not_standsFor hfirst rest),
        fun h => absurd h.1 hfirst⟩

/-! ## Tables -/

/-- The method of the schema builder that the change of an action calls for its table. -/
def upMethod (a : Action) : String := if a = .create then "create" else "table"

/-- The method of the schema builder that takes the change of an action back. -/
def downMethod (a : Action) : String := if a = .create then "drop" else "table"

/-- A call of the schema builder has its table between quotes. -/
theorem exists_tableLayout (method table up down : String) :
    ∃ rest, (tableLayout method table up down).toList =
      (tableHead method).toList ++ (table.toList ++ '\'' :: rest) := by
  have hopening : tableOpening.toList =
      '\'' :: ", function (Blueprint $table) \x7b\n            ".toList := by decide +kernel
  refine ⟨", function (Blueprint $table) \x7b\n            ".toList ++
    (up.toList ++ (down.toList ++ tableEnd.toList)), ?_⟩
  simp only [tableLayout, String.toList_append, hopening, List.append_assoc, List.cons_append]

/-- The statement that drops a table has it between quotes. -/
theorem exists_dropTable (table : String) :
    ∃ rest, (Statement.dropTable table).toList =
      (tableHead "drop").toList ++ (table.toList ++ '\'' :: rest) := by
  refine ⟨");".toList, ?_⟩
  have hhead : (tableHead "drop").toList = "Schema::drop('".toList := by decide +kernel
  have hend : "');".toList = '\'' :: ");".toList := by decide
  rw [Statement.dropTable, String.toList_append, String.toList_append, hhead, hend,
    List.append_assoc]

/-- The bodies of a migration of columns have the table between quotes. -/
theorem exists_bodies {a : Action} {schema : Schema} (ha : elementKind a = .column)
    (h : ¬HasToken schema.name.toList) :
    ∃ b up down, bodies .builtin schema a.keyword = .ok b ∧
      b.up.toList =
        (tableHead (upMethod a)).toList ++ (schema.name.toList ++ '\'' :: up) ∧
      b.down.toList =
        (tableHead (downMethod a)).toList ++ (schema.name.toList ++ '\'' :: down) := by
  have hup : ∃ rest, (upBody a schema).toList =
      (tableHead (upMethod a)).toList ++ (schema.name.toList ++ '\'' :: rest) := by
    cases a with
    | createFunction => cases ha
    | createTrigger => cases ha
    | _ => exact exists_tableLayout _ _ _ _
  have hdown : ∃ rest, (downBody a schema).toList =
      (tableHead (downMethod a)).toList ++ (schema.name.toList ++ '\'' :: rest) := by
    cases a with
    | create => exact exists_dropTable schema.name
    | createFunction => cases ha
    | createTrigger => cases ha
    | _ => exact exists_tableLayout _ _ _ _
  obtain ⟨up, hup⟩ := hup
  obtain ⟨down, hdown⟩ := hdown
  exact ⟨_, up, down, bodies_builtin a h, hup, hdown⟩

/-- The literal that names the table in both bodies of a migration of columns is read back, up to
the quote that the template closes it with, exactly if the name needs no escape: it has no quote, no
two backslashes in a row and no backslash at its end. The names of fields are always read back,
since they are escaped. -/
theorem tableLiteral_iff {a : Action} {schema : Schema} (ha : elementKind a = .column)
    (h : ¬HasToken schema.name.toList) :
    (∃ b up down, bodies .builtin schema a.keyword = .ok b ∧
      b.up.toList = (tableHead (upMethod a)).toList ++ (schema.name.toList ++ '\'' :: up) ∧
      b.down.toList = (tableHead (downMethod a)).toList ++ (schema.name.toList ++ '\'' :: down) ∧
      (readQuoted? (schema.name.toList ++ '\'' :: up) = some (schema.name.toList, up) ↔
        Verbatim schema.name.toList) ∧
      (readQuoted? (schema.name.toList ++ '\'' :: down) = some (schema.name.toList, down) ↔
        Verbatim schema.name.toList)) ∧
    ∀ (name : String) (rest : List Char), ∃ escaped,
      (Literal.singleQuoted name).toList = '\'' :: escaped ∧
        readQuoted? (escaped ++ rest) = some (name.toList, rest) := by
  constructor
  · obtain ⟨b, up, down, hbodies, hup, hdown⟩ := exists_bodies ha h
    exact ⟨b, up, down, hbodies, hup, hdown, readQuoted?_verbatim_iff _ up,
      readQuoted?_verbatim_iff _ down⟩
  · intro name rest
    refine ⟨escape singleSpecial name.toList ++ ['\''], toList_singleQuoted name, ?_⟩
    rw [List.append_assoc, List.singleton_append, readQuoted?_escape]

/-- A table with single backslashes in its name is named as it should be. -/
theorem tableLiteral_iff_backslash :
    let schema : Schema := ⟨"app\\users", [{ name := "id", type := .column "integer" }], false⟩
    elementKind .update = .column ∧ ¬HasToken schema.name.toList ∧
      ∃ b up, bodies .builtin schema "update" = .ok b ∧
        b.up.toList = "Schema::table('".toList ++ (schema.name.toList ++ '\'' :: up) ∧
        readQuoted? (schema.name.toList ++ '\'' :: up) = some (schema.name.toList, up) := by
  intro schema
  have hname : ¬HasToken schema.name.toList := by decide +kernel
  have hverbatim : Verbatim schema.name.toList := ⟨by decide, by decide, by decide⟩
  obtain ⟨⟨b, up, down, hbodies, hup, -, hread, -⟩, -⟩ :=
    tableLiteral_iff (a := .update) rfl hname
  exact ⟨rfl, hname, b, up, hbodies, hup, hread.mpr hverbatim⟩

/-- A table with a quote in its name is not. -/
theorem not_tableLiteral : ¬∀ (a : Action) (schema : Schema), elementKind a = .column →
    ¬HasToken schema.name.toList → ∀ b up, bodies .builtin schema a.keyword = .ok b →
      b.up.toList = (tableHead (upMethod a)).toList ++ (schema.name.toList ++ '\'' :: up) →
        readQuoted? (schema.name.toList ++ '\'' :: up) = some (schema.name.toList, up) := by
  intro h
  let schema : Schema := ⟨"o'brien", [], false⟩
  have hname : ¬HasToken schema.name.toList := by decide +kernel
  obtain ⟨b, up, -, hbodies, hup, -⟩ := exists_bodies (a := .update) rfl hname
  have hverbatim := (readQuoted?_verbatim_iff _ up).mp (h .update schema rfl hname b up hbodies hup)
  exact hverbatim.noQuote (by decide)

end SchemaForge.Migration
