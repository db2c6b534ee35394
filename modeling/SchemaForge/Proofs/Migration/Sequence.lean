import Mathlib.Data.List.Basic
import Mathlib.Data.List.TakeWhile
import Mathlib.Tactic.Common
import SchemaForge.Migration.Statement

/-!
# Statements in a row

`Reader.block?` reads a text the way the generated code is read: as statements with white space
between, each of which a reader of single statements takes from the start of what is left. A reader
always takes something, so the reading ends. `Reader.block?_join` says that statements which are
read back one by one, whatever follows them (`Reader.ReadsBack`), are read back in a row, in their
order and without a remainder.
-/

namespace SchemaForge.Statement

/-- The white space between statements. -/
def isGap (c : Char) : Bool := c == ' ' || c == '\n' || c == '\t' || c == '\r'

/-- What stands between two statements of a block is white space. -/
theorem isGap_of_mem_separator {i : Indentation} {c : Char} (h : c ∈ i.separator.toList) :
    isGap c = true := by
  rw [Indentation.separator, String.toList_append] at h
  rcases List.mem_append.mp h with h | h
  · obtain rfl : c = '\n' := by simpa using h
    decide
  · rw [Indentation.text, String.toList_ofList] at h
    obtain rfl : c = ' ' := List.eq_of_mem_replicate h
    decide

/-- There is something between two statements of a block. -/
theorem separator_ne_empty (i : Indentation) : i.separator ≠ "" := by
  simp [Indentation.separator]

/-- Dropping a known start makes a text no longer. -/
theorem length_dropPrefix? {text start rest : List Char} (h : text.dropPrefix? start = some rest) :
    rest.length ≤ text.length := by
  obtain ⟨front, rfl, -⟩ := List.dropPrefix?_eq_some_iff.mp h
  simp

/-- A reader of the statement at the start of a text. -/
structure Reader (α : Type) where
  /-- What the statement says, and what follows it. -/
  read? : List Char → Option (α × List Char)
  /-- What follows a statement is shorter than what starts with it. -/
  shortens : ∀ {text a rest}, read? text = some (a, rest) → rest.length < text.length

namespace Reader

variable {α β : Type} (reader : Reader α)

/-- What the statements of a text say, in order; none if the text is anything but statements with
white space between. -/
def block? (text : List Char) : Option (List α) :=
  if text.dropWhile isGap = [] then some []
  else
    match _h : reader.read? (text.dropWhile isGap) with
    | none => none
    | some (a, rest) => if rest.head?.all isGap then (block? rest).map (a :: ·) else none
termination_by text.length
decreasing_by
  have hstatement := reader.shortens ‹_›
  have hgap := (List.dropWhile_suffix (l := text) isGap).length_le
  omega

/-- A statement is read back up to its end, whatever follows it, and does not start with white
space. -/
structure ReadsBack (text : List Char) (a : α) : Prop where
  /-- The reader takes the statement and nothing else. -/
  reads : ∀ rest, reader.read? (text ++ rest) = some (a, rest)
  /-- No white space in front of the statement belongs to it. -/
  starts : ∃ c more, text = c :: more ∧ isGap c = false

variable {reader}

/-- A statement is read, and then what follows it if that starts with white space. -/
theorem block?_of_some {text rest : List Char} {a : α} (hsome : text.dropWhile isGap ≠ [])
    (h : reader.read? (text.dropWhile isGap) = some (a, rest)) :
    reader.block? text =
      if rest.head?.all isGap then (reader.block? rest).map (a :: ·) else none := by
  rw [block?, if_neg hsome]
  split
  next hread =>
    rw [h] at hread
    cases hread
  next hread =>
    rw [h] at hread
    cases hread
    rfl

/-- White space in front of statements is skipped. -/
theorem block?_gap {gap : List Char} (hgap : ∀ c ∈ gap, isGap c = true) (text : List Char) :
    reader.block? (gap ++ text) = reader.block? text := by
  have hdrop : (gap ++ text).dropWhile isGap = text.dropWhile isGap :=
    List.dropWhile_append_of_pos hgap
  rw [block?, block?.eq_def reader text, hdrop]

/-- White space has no statements. -/
theorem block?_blank {gap : List Char} (hgap : ∀ c ∈ gap, isGap c = true) :
    reader.block? gap = some [] := by
  have hend : reader.block? (gap ++ []) = reader.block? [] := block?_gap hgap []
  rw [List.append_nil] at hend
  rw [hend, block?]
  rfl

/-- A statement that is read back is followed by what else is read. -/
theorem ReadsBack.block?_append {text rest : List Char} {a : α} (h : reader.ReadsBack text a)
    (hrest : rest.head?.all isGap = true) :
    reader.block? (text ++ rest) = (reader.block? rest).map (a :: ·) := by
  obtain ⟨c, more, rfl, hc⟩ := h.starts
  have hdrop : (c :: more ++ rest).dropWhile isGap = c :: more ++ rest := by
    rw [List.cons_append, List.dropWhile_cons_of_neg (by simp [hc])]
  have hsome : (c :: more ++ rest).dropWhile isGap ≠ [] := by rw [hdrop]; exact List.cons_ne_nil _ _
  have hread := h.reads rest
  rw [← hdrop] at hread
  rw [block?_of_some hsome hread, if_pos hrest]

/-- What starts with white space, or is white space without a statement behind it, may follow a
statement. -/
theorem head?_append_isGap {gap rest : List Char} (hgap : ∀ c ∈ gap, isGap c = true)
    (hrest : gap = [] → rest = []) : (gap ++ rest).head?.all isGap = true := by
  cases gap with
  | nil => simp [hrest rfl]
  | cons c gap => simpa using hgap c List.mem_cons_self

/-- Statements with white space after each and more of it between two are read in order. -/
theorem block?_join {separator tail : String} (hseparator : ∀ c ∈ separator.toList, isGap c = true)
    (hne : separator ≠ "") (htail : ∀ c ∈ tail.toList, isGap c = true) {write : β → String}
    {value : β → α} (h : ∀ b, reader.ReadsBack (write b).toList (value b)) (items : List β) :
    reader.block? (Text.join separator (items.map fun b => write b ++ tail)).toList =
      some (items.map value) := by
  induction items with
  | nil => exact block?_blank (by simp [Text.join])
  | cons b rest ih =>
    cases rest with
    | nil =>
      have hend := head?_append_isGap htail fun _ => (rfl : ([] : List Char) = [])
      rw [List.append_nil] at hend
      simp only [List.map_cons, List.map_nil, Text.join, String.toList_append]
      rw [(h b).block?_append hend, block?_blank htail]
      rfl
    | cons next more =>
      have hgap : ∀ c ∈ tail.toList ++ separator.toList, isGap c = true :=
        List.forall_mem_append.mpr ⟨htail, hseparator⟩
      have hsome : tail.toList ++ separator.toList ≠ [] := by simp [hne]
      have hjoin : (Text.join separator ((b :: next :: more).map fun b => write b ++ tail)).toList =
          (write b).toList ++ ((tail.toList ++ separator.toList) ++ (Text.join separator
            ((next :: more).map fun b => write b ++ tail)).toList) := by
        simp only [List.map_cons, Text.join, String.toList_append, List.append_assoc]
      rw [hjoin, (h b).block?_append (head?_append_isGap hgap fun hnil => absurd hnil hsome),
        block?_gap hgap, ih]
      rfl

end Reader

end SchemaForge.Statement
