import SchemaForge.Proofs.Document.Json.Number
import SchemaForge.Proofs.Document.Json.Text

/-!
# Written values read back

A value that is written over several lines is read as the node it stands for (`parse_pretty`), if
its numbers are whole and fit into 64 bits and its containers are not nested too deep. The reader
is led by the text, so each kind of value is shown to be taken whole, whatever follows it
(`ReadsBack`); the parts of a container are taken one after the other.
-/

namespace SchemaForge.Document.Json

/-! ## The node of a value -/

mutual

/-- The node that a value is met as. -/
def Value.toNode : Value → Node
  | .flag on => .flag on
  | .integer n => .integer n
  | .real x => .real x
  | .text text => .text text
  | .list items => .list (itemNodes items)
  | .object members => .table (memberNodes members)

/-- The nodes that the elements of a list are met as. -/
def itemNodes : List Value → Items
  | [] => .close
  | v :: rest => .item v.toNode (itemNodes rest)

/-- The nodes that the members of an object are met as. -/
def memberNodes : List (String × Value) → Members
  | [] => .close
  | (key, v) :: rest => .member (.text key) v.toNode (memberNodes rest)

end

/-! ## White space -/

/-- White space in front of a text is skipped with the white space of the text. -/
theorem skipSpace_append {gap : List Char} (hgap : ∀ c ∈ gap, isSpace c = true)
    (text : List Char) : skipSpace (gap ++ text) = skipSpace text :=
  List.dropWhile_append_of_pos hgap

/-- A text that starts with no white space is left as it is. -/
theorem skipSpace_cons {c : Char} (h : isSpace c = false) (text : List Char) :
    skipSpace (c :: text) = c :: text :=
  List.dropWhile_cons_of_neg (by simp [h])

/-- A line break is white space. -/
theorem isSpace_of_mem_lineBreak {level : ℕ} {c : Char} (h : c ∈ lineBreak level) :
    isSpace c = true := by
  rcases List.mem_cons.mp h with rfl | hblank
  · rfl
  · rw [List.eq_of_mem_replicate hblank]
    rfl

/-- A line break in front of a text is skipped. -/
theorem skipSpace_lineBreak (level : ℕ) (text : List Char) :
    skipSpace (lineBreak level ++ text) = skipSpace text :=
  skipSpace_append (fun _ => isSpace_of_mem_lineBreak) text

/-- White space in front of a value does not change what is taken. -/
theorem takeValue_append {gap : List Char} (hgap : ∀ c ∈ gap, isSpace c = true)
    (fuel depth : ℕ) (text : List Char) :
    takeValue fuel depth (gap ++ text) = takeValue fuel depth text := by
  cases fuel with
  | zero => rfl
  | succ fuel => simp only [takeValue, skipSpace_append hgap]

/-- A line break in front of the next element does not change what is taken. -/
theorem takeItems_lineBreak (fuel depth level : ℕ) (text : List Char) :
    takeItems fuel depth (lineBreak level ++ text) = takeItems fuel depth text := by
  cases fuel with
  | zero => rfl
  | succ fuel =>
    simp only [takeItems, takeValue_append fun _ => isSpace_of_mem_lineBreak]

/-- A line break in front of the next member does not change what is taken. -/
theorem takeMembers_lineBreak (fuel depth level : ℕ) (text : List Char) :
    takeMembers fuel depth (lineBreak level ++ text) = takeMembers fuel depth text := by
  cases fuel with
  | zero => rfl
  | succ fuel => simp only [takeMembers, skipSpace_lineBreak]

/-- A line break does not go on a number. -/
theorem endsNumber_lineBreak (level : ℕ) (text : List Char) :
    EndsNumber (lineBreak level ++ text) := by
  simp [EndsNumber, lineBreak]

/-- A comma does not go on a number. -/
theorem endsNumber_comma (text : List Char) : EndsNumber (',' :: text) := by
  simp [EndsNumber]

/-! ## Values that are taken whole -/

/-- A value is taken whole from its text, where `depth` more containers may be opened. -/
structure ReadsBack (depth : ℕ) (v : Value) : Prop where
  /-- The text starts with a character that is no white space and does not close a list. -/
  starts (level : ℕ) : ∃ c more, v.renderLines level = c :: more ∧ isSpace c = false ∧ c ≠ ']'
  /-- The value is taken, and what follows its text is left. -/
  takes {level fuel : ℕ} {rest : List Char} (hfuel : (v.renderLines level).length ≤ fuel)
    (hrest : EndsNumber rest) :
    takeValue fuel depth (v.renderLines level ++ rest) = (v.toNode, some rest)

/-- A truth value is taken whole. -/
theorem readsBack_flag (depth : ℕ) (on : Bool) : ReadsBack depth (.flag on) where
  starts level := by
    cases on
    · exact ⟨'f', "alse".toList, rfl, rfl, by decide⟩
    · exact ⟨'t', "rue".toList, rfl, rfl, by decide⟩
  takes {level fuel rest} hfuel _ := by
    cases fuel with
    | zero => cases on <;> simp [Value.renderLines, flagChars] at hfuel
    | succ fuel => cases on <;> rfl

/-- A text is taken whole. -/
theorem readsBack_text (depth : ℕ) (text : String) : ReadsBack depth (.text text) where
  starts level := ⟨'"', _, rfl, rfl, by decide⟩
  takes {level fuel rest} hfuel _ := by
    cases fuel with
    | zero => simp [Value.renderLines, renderText] at hfuel
    | succ fuel =>
      have hopen : skipSpace ((Value.text text).renderLines level ++ rest) =
          '"' :: (text.toList.flatMap escape ++ '"' :: rest) := by
        simp only [Value.renderLines, renderText, List.cons_append, List.append_assoc,
          List.nil_append]
        exact skipSpace_cons rfl _
      simp only [takeValue, hopen, takeText_escape, Value.toNode]

/-- The characters at the start of a value by which the reader tells what is no number: white
space, opening marks, the first letters of the literals, and the mark that closes a list. -/
def marks : List Char := [' ', '\n', '\t', '\r', '"', '[', '{', 'n', 't', 'f', ']']

/-- The text of a whole number starts with a minus sign or a digit. -/
theorem exists_cons_intDigits (n : ℤ) :
    ∃ c more, Decimal.intDigits n = c :: more ∧ ∀ mark ∈ marks, c ≠ mark := by
  rw [Decimal.intDigits]
  split
  · exact ⟨'-', _, rfl, by simp [marks]⟩
  · cases hdigits : Decimal.natDigits n.natAbs with
    | nil => exact absurd hdigits Nat.toDigits_ne_nil
    | cons c more =>
      have hdigit : c.isDigit = true := isDigit_of_mem_natDigits (hdigits ▸ List.mem_cons_self)
      have hmarks : (marks.all fun mark => !mark.isDigit) = true := by decide
      refine ⟨c, more, rfl, ?_⟩
      rintro mark hmark rfl
      exact absurd hdigit (by simpa using List.all_eq_true.mp hmarks c hmark)

/-- A text that starts with none of the marks is taken as a number. -/
theorem takeValue_number {c : Char} {more rest : List Char} {m : Numeral}
    (hc : ∀ mark ∈ marks, c ≠ mark) (hnumeral : takeNumeral? (c :: more) = some (m, rest))
    (fuel depth : ℕ) : takeValue (fuel + 1) depth (c :: more) = (m.toNode, some rest) := by
  simp only [marks, List.forall_mem_cons] at hc
  obtain ⟨hblank, hline, htab, hreturn, hquote, hlist, htable, hnull, htrue, hfalse, -⟩ := hc
  have hspace : isSpace c = false := by simp [isSpace, hblank, hline, htab, hreturn]
  simp [takeValue, takeScalar, skipSpace_cons hspace, hquote, hlist, htable, hnull, htrue, hfalse,
    hnumeral]

/-- A whole number that fits into 64 bits is taken whole. -/
theorem readsBack_integer (depth : ℕ) {n : ℤ} (h : FitsWord n) :
    ReadsBack depth (.integer n) := by
  obtain ⟨c, more, htext, hmarks⟩ := exists_cons_intDigits n
  constructor
  · intro level
    have hspace : isSpace c = false := by
      simp [isSpace, hmarks ' ' (by decide), hmarks '\n' (by decide), hmarks '\t' (by decide),
        hmarks '\r' (by decide)]
    exact ⟨c, more, htext, hspace, hmarks ']' (by decide)⟩
  · intro level fuel rest hfuel hrest
    have hnumeral := takeNumeral?_intDigits n hrest
    rw [Value.renderLines] at hfuel ⊢
    rw [htext] at hfuel hnumeral ⊢
    cases fuel with
    | zero => cases hfuel
    | succ fuel =>
      rw [List.cons_append] at hnumeral ⊢
      rw [takeValue_number hmarks hnumeral, toNode_intNumeral h, Value.toNode]

/-! ## Containers -/

section Containers

variable {depth level fuel : ℕ} {key : String} {v : Value}

/-- The last element of a list is taken, and the list ends. -/
theorem takeItems_last (hv : ReadsBack depth v) (hfuel : (v.renderLines level).length ≤ fuel)
    (outer : ℕ) (rest : List Char) :
    takeItems (fuel + 1) depth (v.renderLines level ++ (lineBreak outer ++ ']' :: rest)) =
      (.item v.toNode .close, some rest) := by
  simp (disch := decide) only [takeItems, hv.takes hfuel (endsNumber_lineBreak _ _),
    Option.map_some, skipSpace_lineBreak, skipSpace_cons]

/-- An element of a list is taken, and then those after it. -/
theorem takeItems_next (hv : ReadsBack depth v) (hfuel : (v.renderLines level).length ≤ fuel)
    (text : List Char) :
    takeItems (fuel + 1) depth (v.renderLines level ++ ',' :: (lineBreak level ++ text)) =
      (.item v.toNode (takeItems fuel depth text).1, (takeItems fuel depth text).2) := by
  simp (disch := decide) only [takeItems, hv.takes hfuel (endsNumber_comma _), Option.map_some,
    skipSpace_cons, takeItems_lineBreak]

/-- The elements of a list are taken one after the other, up to the closing bracket. -/
theorem takeItems_itemLines (level outer : ℕ) {items : List Value} (hne : items ≠ [])
    (hitems : ∀ v ∈ items, ReadsBack depth v) (rest : List Char) {fuel : ℕ}
    (hfuel : (joined (',' :: lineBreak level) (itemLines level items)).length < fuel) :
    takeItems fuel depth (joined (',' :: lineBreak level) (itemLines level items) ++
      (lineBreak outer ++ ']' :: rest)) = (itemNodes items, some rest) := by
  induction items generalizing fuel with
  | nil => exact absurd rfl hne
  | cons v items ih =>
    obtain ⟨fuel, rfl⟩ : ∃ n, fuel = n + 1 := ⟨fuel - 1, by omega⟩
    have hv := hitems v List.mem_cons_self
    cases items with
    | nil =>
      simp only [itemLines, joined] at hfuel ⊢
      exact takeItems_last hv (by omega) outer rest
    | cons w items =>
      simp only [itemLines, joined, List.length_append, List.length_cons] at hfuel ⊢
      have hshorter : (joined (',' :: lineBreak level) (itemLines level (w :: items))).length <
          fuel := by
        simp only [itemLines]
        omega
      have hmore := ih (List.cons_ne_nil w items)
        (fun u hu => hitems u (List.mem_cons_of_mem v hu)) hshorter
      rw [List.append_assoc, List.append_assoc, List.cons_append, takeItems_next hv (by omega)]
      rw [itemLines] at hmore
      simp only [hmore, itemNodes]

/-- A value is taken after the blank that follows its key. -/
theorem takeValue_blank (hv : ReadsBack depth v) (hfuel : (v.renderLines level).length ≤ fuel)
    {rest : List Char} (hrest : EndsNumber rest) :
    takeValue fuel depth (' ' :: (v.renderLines level ++ rest)) = (v.toNode, some rest) := by
  have hblank : ∀ c ∈ [' '], isSpace c = true := List.forall_mem_singleton.mpr rfl
  exact (takeValue_append hblank fuel depth _).trans (hv.takes hfuel hrest)

/-- The last member of an object is taken, and the object ends. -/
theorem takeMembers_last (hv : ReadsBack depth v) (hfuel : (v.renderLines level).length ≤ fuel)
    (outer : ℕ) (rest : List Char) :
    takeMembers (fuel + 1) depth
        (renderText key ++ ':' :: ' ' :: v.renderLines level ++ (lineBreak outer ++ '}' :: rest)) =
      (.member (.text key) v.toNode .close, some rest) := by
  simp (disch := decide) only [takeMembers, renderText, List.cons_append, List.append_assoc,
    List.nil_append, skipSpace_cons, takeText_escape, Option.map_some,
    takeValue_blank hv hfuel (endsNumber_lineBreak _ _), skipSpace_lineBreak]

/-- A member of an object is taken, and then those after it. -/
theorem takeMembers_next (hv : ReadsBack depth v) (hfuel : (v.renderLines level).length ≤ fuel)
    (text : List Char) :
    takeMembers (fuel + 1) depth
        (renderText key ++ ':' :: ' ' :: v.renderLines level ++ ',' :: (lineBreak level ++ text)) =
      (.member (.text key) v.toNode (takeMembers fuel depth text).1,
        (takeMembers fuel depth text).2) := by
  simp (disch := decide) only [takeMembers, renderText, List.cons_append, List.append_assoc,
    List.nil_append, skipSpace_cons, takeText_escape, Option.map_some,
    takeValue_blank hv hfuel (endsNumber_comma _), takeMembers_lineBreak]

/-- The members of an object are taken one after the other, up to the closing brace. -/
theorem takeMembers_memberLines (level outer : ℕ) {members : List (String × Value)}
    (hne : members ≠ []) (hmembers : ∀ m ∈ members, ReadsBack depth m.2) (rest : List Char)
    {fuel : ℕ}
    (hfuel : (joined (',' :: lineBreak level) (memberLines level members)).length < fuel) :
    takeMembers fuel depth (joined (',' :: lineBreak level) (memberLines level members) ++
      (lineBreak outer ++ '}' :: rest)) = (memberNodes members, some rest) := by
  induction members generalizing fuel with
  | nil => exact absurd rfl hne
  | cons m members ih =>
    obtain ⟨key, v⟩ := m
    obtain ⟨fuel, rfl⟩ : ∃ n, fuel = n + 1 := ⟨fuel - 1, by omega⟩
    have hv : ReadsBack depth v := hmembers (key, v) List.mem_cons_self
    cases members with
    | nil =>
      simp only [memberLines, joined, List.length_append, List.length_cons] at hfuel ⊢
      exact takeMembers_last hv (by omega) outer rest
    | cons w members =>
      simp only [memberLines, joined, List.length_append, List.length_cons] at hfuel ⊢
      have hshorter : (joined (',' :: lineBreak level) (memberLines level (w :: members))).length <
          fuel := by
        simp only [memberLines]
        omega
      have hmore := ih (List.cons_ne_nil w members)
        (fun m hm => hmembers m (List.mem_cons_of_mem _ hm)) hshorter
      rw [List.append_assoc, List.append_assoc, List.cons_append,
        takeMembers_next hv (by omega)]
      rw [memberLines] at hmore
      simp only [hmore, memberNodes]

end Containers

/-- The text between the brackets of a container starts, after white space, with its first part. -/
theorem exists_skipSpace_block (level : ℕ) {c : Char} (part : List Char) {more : List Char}
    (hpart : part = c :: more) (hspace : isSpace c = false) (parts : List (List Char))
    (rest : List Char) :
    ∃ tail, skipSpace (block level (part :: parts) ++ rest) = c :: tail ∧
      c :: tail = joined (',' :: lineBreak (level + 1)) (part :: parts) ++
        (lineBreak level ++ rest) := by
  obtain ⟨tail, htail⟩ : ∃ tail, joined (',' :: lineBreak (level + 1)) (part :: parts) =
      c :: tail := by
    cases parts with
    | nil => exact ⟨more, hpart⟩
    | cons next parts => exact ⟨_, congrArg (· ++ _ ++ _) hpart⟩
  refine ⟨tail ++ (lineBreak level ++ rest), ?_, by rw [htail, List.cons_append]⟩
  rw [block, if_neg (by simp), htail, List.append_assoc, List.append_assoc, List.cons_append,
    skipSpace_lineBreak, skipSpace_cons hspace]

/-- The text between the brackets of a container is longer than its joined parts. -/
theorem length_joined_lt_block (level : ℕ) (part : List Char) (parts : List (List Char)) :
    (joined (',' :: lineBreak (level + 1)) (part :: parts)).length <
      (block level (part :: parts)).length := by
  rw [block, if_neg (by simp)]
  simp only [lineBreak, List.length_append, List.length_cons, List.length_replicate]
  omega

/-- A list is taken whole if its elements are. -/
theorem readsBack_list {depth : ℕ} {items : List Value} (h : ∀ v ∈ items, ReadsBack depth v) :
    ReadsBack (depth + 1) (.list items) where
  starts level := ⟨'[', _, rfl, rfl, by decide⟩
  takes {level fuel rest} hfuel _ := by
    simp only [Value.renderLines, List.length_append, List.length_cons] at hfuel
    obtain ⟨fuel, rfl⟩ : ∃ n, fuel = n + 1 := ⟨fuel - 1, by omega⟩
    cases items with
    | nil => rfl
    | cons v items =>
      -- The reader looks for the closing bracket first, and no element starts with it.
      obtain ⟨c, more, hstart, hspace, hclose⟩ := (h v List.mem_cons_self).starts (level + 1)
      obtain ⟨tail, hskip, htail⟩ := exists_skipSpace_block level _ hstart hspace
        (itemLines (level + 1) items) (']' :: rest)
      have hjoined : (joined (',' :: lineBreak (level + 1))
          (itemLines (level + 1) (v :: items))).length < fuel := by
        have hshorter := length_joined_lt_block level (v.renderLines (level + 1))
          (itemLines (level + 1) items)
        simp only [itemLines] at hfuel ⊢
        omega
      have hitems := takeItems_itemLines (level + 1) level (List.cons_ne_nil v items) h rest hjoined
      rw [itemLines, ← htail] at hitems
      simp (disch := decide) only [Value.renderLines, itemLines, List.append_assoc,
        List.cons_append, List.nil_append, takeValue, skipSpace_cons, hskip]
      simp [hclose, hitems, atDepth, Value.toNode]

/-- An object is taken whole if its values are. -/
theorem readsBack_object {depth : ℕ} {members : List (String × Value)}
    (h : ∀ m ∈ members, ReadsBack depth m.2) : ReadsBack (depth + 1) (.object members) where
  starts level := ⟨'\x7b', _, rfl, rfl, by decide⟩
  takes {level fuel rest} hfuel _ := by
    simp only [Value.renderLines, List.length_append, List.length_cons] at hfuel
    obtain ⟨fuel, rfl⟩ : ∃ n, fuel = n + 1 := ⟨fuel - 1, by omega⟩
    cases members with
    | nil => rfl
    | cons m members =>
      obtain ⟨key, v⟩ := m
      -- The first part starts with the quote of the first key, which does not close the object.
      obtain ⟨tail, hskip, htail⟩ := exists_skipSpace_block level
        (renderText key ++ ':' :: ' ' :: v.renderLines (level + 1)) rfl rfl
        (memberLines (level + 1) members) ('}' :: rest)
      have hjoined : (joined (',' :: lineBreak (level + 1))
          (memberLines (level + 1) ((key, v) :: members))).length < fuel := by
        have hshorter := length_joined_lt_block level
          (renderText key ++ ':' :: ' ' :: v.renderLines (level + 1))
          (memberLines (level + 1) members)
        simp only [memberLines] at hfuel ⊢
        omega
      have hmembers := takeMembers_memberLines (level + 1) level (List.cons_ne_nil _ members) h rest
        hjoined
      rw [memberLines, ← htail] at hmembers
      simp (disch := decide) only [Value.renderLines, memberLines, List.append_assoc,
        List.cons_append, List.nil_append, takeValue, skipSpace_cons]
      rw [hskip]
      simp [hmembers, atDepth, Value.toNode]

/-! ## Documents -/

/-- A value whose numbers are whole and fit into 64 bits and whose containers are nested at most
`depth` deep. -/
inductive Value.Plain : ℕ → Value → Prop
  /-- A truth value is plain. -/
  | flag (depth : ℕ) (on : Bool) : Plain depth (.flag on)
  /-- A whole number is plain if it fits into 64 bits. -/
  | integer (depth : ℕ) {n : ℤ} (h : FitsWord n) : Plain depth (.integer n)
  /-- A text is plain. -/
  | text (depth : ℕ) (text : String) : Plain depth (.text text)
  /-- A list is plain if its elements are. -/
  | list {depth : ℕ} {items : List Value} (h : ∀ v ∈ items, Plain depth v) :
      Plain (depth + 1) (.list items)
  /-- An object is plain if its values are. -/
  | object {depth : ℕ} {members : List (String × Value)} (h : ∀ m ∈ members, Plain depth m.2) :
      Plain (depth + 1) (.object members)

/-- A plain value is taken whole. -/
theorem Value.Plain.readsBack {depth : ℕ} {v : Value} (h : v.Plain depth) : ReadsBack depth v := by
  induction h with
  | flag depth on => exact readsBack_flag depth on
  | integer depth h => exact readsBack_integer depth h
  | text depth text => exact readsBack_text depth text
  | list _ ih => exact readsBack_list ih
  | object _ ih => exact readsBack_object ih

/-- The text of a plain value is a whole document, and its value is met as the node it stands
for. -/
theorem parse_pretty {v : Value} (h : v.Plain maxDepth) : parse v.pretty = (v.toNode, true) := by
  have hfuel : (v.renderLines 0).length ≤ 2 * v.pretty.length + 1 := by
    rw [Value.pretty, String.length_ofList]
    omega
  have hvalue := h.readsBack.takes hfuel endsNumber_nil
  rw [List.append_nil] at hvalue
  rw [parse, Value.pretty, String.toList_ofList, ← Value.pretty, hvalue]
  rfl

/-- What is read from the text of a plain value is what is read from its node. -/
theorem decode_pretty {α : Type} (read : Reader α) {v : Value} (h : v.Plain maxDepth) :
    decode read v.pretty = read v.toNode := by
  simp only [decode, parse_pretty h, if_true]
  cases read v.toNode <;> rfl

end SchemaForge.Document.Json
