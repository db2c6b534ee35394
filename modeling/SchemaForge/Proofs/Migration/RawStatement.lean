import SchemaForge.Proofs.Migration.Sequence

/-!
# Raw statements read back

`readBlock?` reads a text the way the generated code is read: as statements with white space
between, each of which runs one double-quoted literal. A literal ends at its first quote without a
backslash in front, and has no dollar sign without one, since that could start a variable.
`readBlock?_block` says that the block of statements of functions or triggers is read as one
statement for each field, in order, that runs exactly the field's SQL.

The reader of one statement (`rawReader`) knows no other escapes, so a text that it reads has none.
What it reads back is stated for any text that follows, which is what statements in a row ask of it.
-/

namespace SchemaForge.Statement

open Literal (escape doubleSpecial)

/-! ## Reading -/

/-- What a double-quoted literal says, from behind its opening quote, and what follows its closing
one; none if a dollar sign has no backslash in front or a backslash stands before anything but a
backslash, a quote or a dollar sign. -/
def readLiteral? : List Char → Option (List Char × List Char)
  | [] => none
  | '"' :: rest => some ([], rest)
  | '$' :: _ => none
  | '\\' :: [] => none
  | '\\' :: c :: rest =>
    if c = '\\' ∨ c = '"' ∨ c = '$' then (readLiteral? rest).map fun p => (c :: p.1, p.2) else none
  | c :: rest => (readLiteral? rest).map fun p => (c :: p.1, p.2)

/-- What a raw statement has before its literal, the opening quote included. -/
def opening : List Char := "DB::unprepared(\"".toList

/-- What a raw statement has after its literal. -/
def closing : List Char := ");".toList

/-- The SQL that the raw statement at the start of a text runs, and what follows the statement. -/
def readRaw? (text : List Char) : Option (String × List Char) := do
  let inner ← text.dropPrefix? opening
  let (sql, after) ← readLiteral? inner
  let rest ← after.dropPrefix? closing
  return (String.ofList sql, rest)

/-- What follows a literal is shorter than what starts behind its opening quote. -/
theorem length_readLiteral? {text sql rest : List Char} (h : readLiteral? text = some (sql, rest)) :
    rest.length < text.length := by
  fun_induction readLiteral? text generalizing sql with
  | case1 => cases h
  | case2 => cases h; simp
  | case3 => cases h
  | case4 => cases h
  | case5 c tail hc ih =>
    obtain ⟨p, hp, hpair⟩ := Option.map_eq_some_iff.mp h
    obtain ⟨-, rfl⟩ := Prod.mk.inj hpair
    have hshort := ih hp
    simp only [List.length_cons]
    omega
  | case6 => cases h
  | case7 c tail _ _ _ _ ih =>
    obtain ⟨p, hp, hpair⟩ := Option.map_eq_some_iff.mp h
    obtain ⟨-, rfl⟩ := Prod.mk.inj hpair
    have hshort := ih hp
    simp only [List.length_cons]
    omega

/-- What follows a statement is shorter than what starts with it. -/
theorem length_readRaw? {text rest : List Char} {sql : String}
    (h : readRaw? text = some (sql, rest)) : rest.length < text.length := by
  simp only [readRaw?, Option.bind_eq_bind, Option.bind_eq_some_iff] at h
  obtain ⟨inner, hinner, ⟨literal, after⟩, hliteral, rest', hrest, hpair⟩ := h
  obtain ⟨-, rfl⟩ : _ ∧ rest' = rest := by simpa using hpair
  have hopening := length_dropPrefix? hinner
  have hbody := length_readLiteral? hliteral
  have hclosing : rest'.length ≤ after.length := length_dropPrefix? hrest
  omega

/-- The reader of raw statements. -/
def rawReader : Reader String := ⟨readRaw?, length_readRaw?⟩

/-- The SQL that the statements of a text run, in order; none if the text is anything but raw
statements with white space between. -/
def readBlock? (text : List Char) : Option (List String) := rawReader.block? text

/-! ## Reading what is written -/

/-- An escaped text is read back up to the closing quote. -/
theorem readLiteral?_escape (text rest : List Char) :
    readLiteral? (escape doubleSpecial text ++ '"' :: rest) = some (text, rest) := by
  induction text with
  | nil => rfl
  | cons c text ih =>
    rw [escape, List.flatMap_cons, List.append_assoc, ← escape]
    by_cases hspecial : doubleSpecial c = true
    · have hc : c = '\\' ∨ c = '"' ∨ c = '$' := by
        simpa [doubleSpecial, or_assoc] using hspecial
      rw [if_pos hspecial, List.cons_append, List.singleton_append, readLiteral?, if_pos hc, ih]
      rfl
    · have hc : ¬(c = '\\' ∨ c = '"' ∨ c = '$') := by
        simpa [doubleSpecial, and_assoc] using hspecial
      obtain ⟨hbackslash, hquote, hdollar⟩ : c ≠ '\\' ∧ c ≠ '"' ∧ c ≠ '$' := by
        simpa only [not_or] using hc
      rw [if_neg hspecial, List.singleton_append]
      rw [readLiteral?.eq_def]
      split <;> simp_all

/-- The characters of a raw statement. -/
theorem toList_raw (sql : String) :
    (raw sql).toList = opening ++ (escape doubleSpecial sql.toList ++ '"' :: closing) := by
  have hopening : opening = "DB::unprepared(".toList ++ ['"'] := by decide
  have hliteral : (Literal.doubleQuoted sql).toList =
      '"' :: escape doubleSpecial sql.toList ++ ['"'] := String.toList_ofList
  rw [raw, String.toList_append, String.toList_append, hliteral, hopening, closing]
  simp only [List.append_assoc, List.cons_append, List.nil_append]

/-- A raw statement is read back up to its end. -/
theorem readRaw?_raw (sql : String) (rest : List Char) :
    readRaw? ((raw sql).toList ++ rest) = some (sql, rest) := by
  have htext : (raw sql).toList ++ rest =
      opening ++ (escape doubleSpecial sql.toList ++ '"' :: (closing ++ rest)) := by
    rw [toList_raw]
    simp only [List.append_assoc, List.cons_append]
  have hopening := fun text => List.dropPrefix?_append_of_beq text (beq_self_eq_true opening)
  have hclosing := fun text => List.dropPrefix?_append_of_beq text (beq_self_eq_true closing)
  rw [readRaw?, htext, hopening]
  simp only [Option.bind_eq_bind, Option.bind_some, readLiteral?_escape, hclosing,
    String.ofList_toList]
  rfl

/-- A raw statement is read back. -/
theorem readsBack_raw (sql : String) : rawReader.ReadsBack (raw sql).toList sql := by
  refine ⟨readRaw?_raw sql, 'D', ?_⟩
  have hhead : opening.head? = some 'D' := by decide
  obtain ⟨more, hopening⟩ := List.head?_eq_some_iff.mp hhead
  refine ⟨more ++ (escape doubleSpecial sql.toList ++ '"' :: closing), ?_, by decide⟩
  rw [toList_raw, hopening, List.cons_append]

/-- The SQL of a field that is run in a direction, empty if there is none. -/
def sqlOf (d : Direction) (f : Field) : String :=
  match d with
  | .add => f.sqlUp.getD ""
  | .drop => f.sqlDown.getD ""

/-- The block of statements of functions or triggers, whatever the SQL and the indentation, is read
as one statement for each field, in order, that runs the field's SQL. -/
theorem readBlock?_block (fields : List Field) (d : Direction) {k : ElementKind}
    (hk : k = .function ∨ k = .trigger) (i : Indentation) :
    readBlock? (block fields d k i).toList = some (fields.map (sqlOf d)) := by
  -- Adding statements have one more line break each.
  have hrender : ∃ tail : String, (∀ c ∈ tail.toList, isGap c = true) ∧
      render d k = fun f => raw (sqlOf d f) ++ tail := by
    cases d with
    | add =>
      refine ⟨"\n", by simp [isGap], ?_⟩
      rcases hk with rfl | rfl <;> rfl
    | drop =>
      refine ⟨"", by simp, funext fun f => ?_⟩
      rw [String.append_empty]
      rcases hk with rfl | rfl <;> rfl
  obtain ⟨tail, htail, hrender⟩ := hrender
  rw [readBlock?, block, hrender]
  exact Reader.block?_join (fun _ => isGap_of_mem_separator) (separator_ne_empty i) htail
    (fun f => readsBack_raw (sqlOf d f)) fields

/-- Two triggers, one with quotes, backslashes, variables and the end of a statement in its SQL, and
one without SQL. -/
theorem readBlock?_block_triggers :
    let fields : List Field := [.storedTrigger "t" "SET @a = \"$b\\n\\\"; \x7b$c\x7d\");\n" "",
      { name := "u", type := .trigger }]
    (ElementKind.trigger = .function ∨ ElementKind.trigger = .trigger) ∧
      readBlock? (block fields .add .trigger .closureBody).toList =
        some ["SET @a = \"$b\\n\\\"; \x7b$c\x7d\");\n", ""] := by
  intro fields
  have hk : ElementKind.trigger = .function ∨ ElementKind.trigger = .trigger := .inr rfl
  exact ⟨hk, readBlock?_block fields .add hk .closureBody⟩

end SchemaForge.Statement
