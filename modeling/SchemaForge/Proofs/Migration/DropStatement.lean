import SchemaForge.Proofs.Migration.Quoted
import SchemaForge.Proofs.Migration.RawStatement

/-!
# Drop statements read back

`readCall?` reads a call of the schema builder that passes one single-quoted literal. The statements
that drop columns and indexes are such calls, and `block?_dropColumns` says that a block of them,
whatever the names and the indentation, is read as one call for each field, in order, of the method
for the field's type with exactly the field's name.

The name stands in the statement with its quotes and backslashes escaped, so the literal ends where
the name does: what follows it is arbitrary in `readCall?_dropColumn`, and with it the next
statement is met where it begins.
-/

namespace SchemaForge.Statement

open Literal (escape singleSpecial toList_singleQuoted)
open Migration (readQuoted? readQuoted?_escape length_readQuoted?)

/-! ## Reading -/

/-- A call of a method of the schema builder with one text. -/
structure Call where
  /-- The method that is called. -/
  method : String
  /-- What its literal says. -/
  argument : String
deriving DecidableEq, Repr

/-- The characters of a method's name. -/
def isMethodChar (c : Char) : Bool := c.isAlphanum || c == '_'

/-- What a call has before its method. -/
def receiver : String := "$table->"

/-- What a call has between its method and what its literal says. -/
def callOpening : String := "('"

/-- The call at the start of a text, and what follows the statement. -/
def readCall? (text : List Char) : Option (Call × List Char) := do
  let named ← text.dropPrefix? receiver.toList
  let inner ← (named.dropWhile isMethodChar).dropPrefix? callOpening.toList
  let (argument, after) ← readQuoted? inner
  let rest ← after.dropPrefix? closing
  return (⟨String.ofList (named.takeWhile isMethodChar), String.ofList argument⟩, rest)

/-- What follows a call is shorter than what starts with it. -/
theorem length_readCall? {text rest : List Char} {call : Call}
    (h : readCall? text = some (call, rest)) : rest.length < text.length := by
  simp only [readCall?, Option.bind_eq_bind, Option.bind_eq_some_iff] at h
  obtain ⟨named, hnamed, inner, hinner, ⟨argument, after⟩, hliteral, rest', hrest, hpair⟩ := h
  obtain ⟨-, rfl⟩ : _ ∧ rest' = rest := by simpa using hpair
  have hreceiver := length_dropPrefix? hnamed
  have hmethod := (List.dropWhile_suffix (l := named) isMethodChar).length_le
  have hopening := length_dropPrefix? hinner
  have hbody := length_readQuoted? hliteral
  have hclosing : rest'.length ≤ after.length := length_dropPrefix? hrest
  omega

/-- The reader of calls. -/
def callReader : Reader Call := ⟨readCall?, length_readCall?⟩

/-! ## Reading what is written -/

/-- The method of the schema builder that drops a field of each type: the four kinds of index have
one of their own. -/
def dropCall : FieldType → String
  | .index => "dropIndex"
  | .unique => "dropUnique"
  | .primary => "dropPrimary"
  | .foreign => "dropForeign"
  | .function | .trigger | .column _ => "dropColumn"

/-- The method that a statement calls is the one for the field's type. -/
theorem dropMethod_eq (t : FieldType) : dropMethod t = dropCall t := by
  cases t with
  | index => decide +kernel
  | unique => decide +kernel
  | primary => decide +kernel
  | foreign => decide +kernel
  | function | trigger | column => rfl

/-- The name of a method that drops has only characters of a method's name. -/
theorem isMethodChar_dropCall (t : FieldType) :
    ∀ c ∈ (dropCall t).toList, isMethodChar c = true := by
  have hcolumn : "dropColumn".toList.all isMethodChar = true := by decide
  apply List.all_eq_true.mp
  cases t with
  | index | unique | primary | foreign => decide
  | function | trigger | column => exact hcolumn

/-- The characters of a statement that drops a field. -/
theorem toList_dropColumn (f : Field) : (dropColumn f).toList =
    receiver.toList ++ ((dropCall f.type).toList ++
      (callOpening.toList ++ (escape singleSpecial f.name.toList ++ '\'' :: closing))) := by
  have hopening : callOpening.toList = "(".toList ++ ['\''] := by decide
  rw [dropColumn, dropMethod_eq, String.toList_append, String.toList_append, String.toList_append,
    String.toList_append, toList_singleQuoted, hopening, receiver, closing]
  simp only [List.append_assoc, List.cons_append, List.nil_append]

/-- A statement that drops a field is read up to its end as the call for the field. -/
theorem readCall?_dropColumn (f : Field) (rest : List Char) :
    readCall? ((dropColumn f).toList ++ rest) = some (⟨dropCall f.type, f.name⟩, rest) := by
  have hmethod := isMethodChar_dropCall f.type
  have hdropPrefix := fun start text : List Char =>
    List.dropPrefix?_append_of_beq text (beq_self_eq_true start)
  have htext : (dropColumn f).toList ++ rest =
      receiver.toList ++ ((dropCall f.type).toList ++ (callOpening.toList ++
        (escape singleSpecial f.name.toList ++ '\'' :: (closing ++ rest)))) := by
    rw [toList_dropColumn]
    simp only [List.append_assoc, List.cons_append]
  -- The method's name ends at the parenthesis that starts the opening.
  have hstop : ∀ text, (callOpening.toList ++ text).takeWhile isMethodChar = [] ∧
      (callOpening.toList ++ text).dropWhile isMethodChar = callOpening.toList ++ text :=
    fun text => ⟨rfl, rfl⟩
  rw [readCall?, htext, hdropPrefix]
  simp only [Option.bind_eq_bind, Option.bind_some, List.takeWhile_append_of_pos hmethod,
    List.dropWhile_append_of_pos hmethod, hstop, hdropPrefix, readQuoted?_escape, List.append_nil,
    String.ofList_toList]
  rfl

/-- A statement that drops a field is read back. -/
theorem readsBack_dropColumn (f : Field) :
    callReader.ReadsBack (dropColumn f).toList ⟨dropCall f.type, f.name⟩ := by
  refine ⟨readCall?_dropColumn f, '$', ?_⟩
  have hhead : receiver.toList.head? = some '$' := by decide
  obtain ⟨more, hreceiver⟩ := List.head?_eq_some_iff.mp hhead
  exact ⟨_, by rw [toList_dropColumn, hreceiver, List.cons_append], by decide⟩

/-- The block of statements that drop fields, whatever their names and types and the indentation, is
read as one call for each field, in order, of the method for the field's type with the field's
name. -/
theorem block?_dropColumns (fields : List Field) (i : Indentation) :
    callReader.block? (block fields .drop .column i).toList =
      some (fields.map fun f => ⟨dropCall f.type, f.name⟩) := by
  have htail : ∀ c ∈ "".toList, isGap c = true := by simp
  have hjoin := Reader.block?_join (fun _ => isGap_of_mem_separator) (separator_ne_empty i) htail
    readsBack_dropColumn fields
  simp only [String.append_empty] at hjoin
  rw [block]
  exact hjoin

/-- A column whose name has a quote, the end of a statement and a backslash at its end, and an index
of that column. -/
example : callReader.block? (block [{ name := "a');\\", type := .column "string" },
    { name := "ix", type := .index }] .drop .column .closureBody).toList =
      some [⟨"dropColumn", "a');\\"⟩, ⟨"dropIndex", "ix"⟩] := by
  decide +kernel

end SchemaForge.Statement
