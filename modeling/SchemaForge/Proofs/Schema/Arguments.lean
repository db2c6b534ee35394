import Mathlib.Tactic.Common
import SchemaForge.Migration.Statement
import SchemaForge.Proofs.Schema.Saved
import SchemaForge.Schema.Validation

/-!
# The two forms of arguments

A document gives the arguments of a field as a list of texts or as one text, which are the same
texts with commas between. `Field.read_document` says that the form is all that the two readings
differ in: the other members are read alike, wherever they stand, and the arguments are put into
the record afterwards. The one text is kept as a single argument, so the forms are told apart by
what looks at the number of arguments. `Field.forms_alike_iff` says what that comes to: validation
never tells them apart, and the statement that adds the field does exactly if the field is an index
of several columns, whose list gets brackets that the one text goes without.
-/

namespace SchemaForge

open Document

/-! ## Reading around a change -/

namespace Document

/-- A change that makes no difference to any member is made before or after the members are read,
as long as the members keep what the change needs. -/
theorem readMembers_change {α : Type} {add : α → String → Node → Except Fault α}
    {keeps : α → Prop} {change : α → α}
    (hadd : ∀ a name v, keeps a → add (change a) name v = (add a name v).map change)
    (hkeeps : ∀ a name v a', keeps a → add a name v = .ok a' → keeps a') :
    ∀ (members : Members) {a : α}, keeps a →
      readMembers add (change a) members = (readMembers add a members).map change
  | .close, _, _ => rfl
  | .broken, _, _ => rfl
  | .member (.text name) value rest, a, h => by
    simp only [readMembers, hadd a name value h]
    cases hname : add a name value with
    | error => rfl
    | ok a' => exact readMembers_change hadd hkeeps rest (hkeeps a name value a' h hname)
  | .member .null _ _, _, _ | .member (.flag _) _ _, _, _ | .member (.integer _) _ _, _, _
  | .member (.real _) _ _, _, _ | .member (.list _) _ _, _, _ | .member (.table _) _ _, _, _
  | .member .unreadable _ _, _, _ | .member .broken _ _, _, _ => rfl

/-- A slot ignores a change of the record that may be made before or after the slot is filled. -/
def Slot.Ignores {α : Type} (s : Slot α) (change : α → α) : Prop :=
  ∀ record node, s.fill (change record) node = (s.fill record node).map change

end Document

/-- A slot ignores a change that its value is put beside. -/
theorem ignores_slot {α β : Type} {name : String} {required : Bool} {read : Reader β}
    {put : α → β → α} {change : α → α} (h : ∀ a b, put (change a) b = change (put a b)) :
    (slot name required read put).Ignores change := by
  intro record node
  simp only [slot]
  cases read node with
  | error => rfl
  | ok b => exact congrArg Except.ok (h record b)

namespace Field

/-- The members of a field's table: some, then the arguments, then others. -/
def members (front : List (Node × Node)) (arguments : Node) (back : Members) : Members :=
  front.foldr (fun member rest => .member member.1 member.2 rest)
    (.member (.text "arguments") arguments back)

/-- A field as a table with the arguments somewhere among its members. -/
def document (front : List (Node × Node)) (arguments : Node) (back : Members) : Node :=
  .table (members front arguments back)

/-- The record and its filled members with other arguments. -/
def argue (arguments : List String) (state : Field × List String) : Field × List String :=
  (state.1.withArguments arguments, state.2)

/-- All slots but that of the arguments ignore them. -/
theorem ignores_arguments {s : Slot Field} (hslot : s ∈ shape.slots) (hname : s.name ≠ "arguments")
    (arguments : List String) : s.Ignores (·.withArguments arguments) := by
  simp only [shape, List.mem_cons, List.not_mem_nil, or_false] at hslot
  rcases hslot with rfl | rfl | rfl | rfl | rfl | rfl
  · exact ignores_slot fun _ _ => rfl
  · exact ignores_slot fun _ _ => rfl
  · exact absurd rfl hname
  · exact ignores_slot fun _ _ => rfl
  · exact ignores_slot fun _ _ => rfl
  · exact ignores_slot fun _ _ => rfl

/-- Once there are arguments, a member is added beside them or refused whatever they are. -/
theorem addMember_argue (arguments : List String) (state : Field × List String) (name : String)
    (value : Node) (h : "arguments" ∈ state.2) :
    shape.addMember (argue arguments state) name value =
      (shape.addMember state name value).map (argue arguments) := by
  unfold Shape.addMember
  split
  next s hfind =>
    by_cases hfilled : name ∈ state.2
    · rw [if_pos hfilled, if_pos (by exact hfilled)]
      rfl
    · have hname : s.name = name := by simpa using List.find?_some hfind
      have hother : s.name ≠ "arguments" := by
        rintro hsame
        rw [← hname, hsame] at hfilled
        exact hfilled h
      rw [if_neg hfilled, if_neg (by exact hfilled), argue,
        ignores_arguments (List.mem_of_find?_eq_some hfind) hother arguments state.1 value]
      cases s.fill state.1 value with
      | error => rfl
      | ok => rfl
  next =>
    split
    · rfl
    split
    · rfl
    · rfl

/-- A member that is added leaves those before it filled. -/
theorem filled_of_addMember {state state' : Field × List String} {name : String} {value : Node}
    (h : "arguments" ∈ state.2) (hadd : shape.addMember state name value = .ok state') :
    "arguments" ∈ state'.2 := by
  unfold Shape.addMember at hadd
  split at hadd
  next s hfind =>
    split at hadd
    · cases hadd
    · cases hfill : s.fill state.1 value with
      | error => rw [hfill] at hadd; cases hadd
      | ok record =>
        rw [hfill] at hadd
        cases hadd
        exact List.mem_cons_of_mem _ h
  next =>
    split at hadd
    · cases hadd
    split at hadd
    · cases hadd; exact h
    · cases hadd

/-- The members are read as with an empty list of arguments, and then the arguments are put in. -/
theorem readMembers_members {arguments : List String} {node : Node}
    (h : readArguments node = .ok arguments) (back : Members) (front : List (Node × Node))
    (state : Field × List String) :
    readMembers shape.addMember state (members front node back) =
      (readMembers shape.addMember state (members front (.list .close) back)).map
        (argue arguments) := by
  induction front generalizing state with
  | nil =>
    have hempty : readArguments (.list .close) = .ok [] := rfl
    have hfind : shape.slots.find? (·.name == "arguments") =
      some (slot "arguments" false readArguments fun f arguments => { f with arguments }) := rfl
    simp only [members, List.foldr_nil, readMembers, Shape.addMember, hfind]
    by_cases hfilled : "arguments" ∈ state.2
    · rw [if_pos hfilled, if_pos hfilled]
      rfl
    · rw [if_neg hfilled, if_neg hfilled]
      simp only [slot, h, hempty]
      exact readMembers_change (fun state name value => addMember_argue arguments state name value)
        (fun _ _ _ _ => filled_of_addMember) back
        (a := ({ state.1 with arguments := [] }, "arguments" :: state.2)) List.mem_cons_self
  | cons member front ih =>
    obtain ⟨key, value⟩ := member
    have hcons (node : Node) : members ((key, value) :: front) node back =
      .member key value (members front node back) := rfl
    rw [hcons, hcons]
    cases key with
    | text name =>
      simp only [readMembers]
      cases shape.addMember state name value with
      | error => rfl
      | ok state' => exact ih state'
    | _ => rfl

/-- A field is read as with an empty list of arguments, and then its arguments are put in. -/
theorem read_document {arguments : List String} {node : Node}
    (h : readArguments node = .ok arguments) (surplus : Bool) (front : List (Node × Node))
    (back : Members) : shape.read surplus (document front node back) =
      (shape.read surplus (document front (.list .close) back)).map
        (·.withArguments arguments) := by
  simp only [document, Shape.read, Shape.readNamed, readMembers_members h]
  cases readMembers shape.addMember (shape.blank, []) (members front (.list .close) back) with
  | error => rfl
  | ok state =>
    simp only [Except.map, bind, Except.bind, argue]
    split
    · rfl
    · rfl

end Field

/-! ## The two forms -/

/-- Texts in a row are not empty if there is a text that is not. -/
theorem Text.join_ne_empty {separator : String} {texts : List String} (hne : texts ≠ [])
    (htexts : ∀ text ∈ texts, text ≠ "") : Text.join separator texts ≠ "" := by
  match texts with
  | [] => exact absurd rfl hne
  | [text] => exact htexts text List.mem_cons_self
  | text :: next :: rest =>
    have htext : text ≠ "" := htexts text List.mem_cons_self
    simp [Text.join, htext]

/-- Arguments as one text. -/
def oneText (arguments : List String) : Node := .text (Text.join ", " arguments)

/-- Arguments as a list of texts. -/
def textList (arguments : List String) : Node := .list (Items.ofList (arguments.map .text))

/-- One text is read as a single argument. -/
theorem readArguments_oneText {arguments : List String} (hne : arguments ≠ [])
    (htexts : ∀ text ∈ arguments, text ≠ "") :
    readArguments (oneText arguments) = .ok [Text.join ", " arguments] := by
  have hjoined : Text.join ", " arguments ≠ "" := Text.join_ne_empty hne htexts
  simp [readArguments, oneText, Node.isReadable, hjoined]

/-- Texts in a list are what they are written as. -/
theorem ofList_text (texts : List String) :
    Items.ofList (texts.map .text) = Json.itemNodes (texts.map .text) := by
  induction texts with
  | nil => rfl
  | cons text rest ih => rw [List.map_cons, Items.ofList, ih]; rfl

/-- A list of texts is read as it is. -/
theorem readArguments_textList (arguments : List String) :
    readArguments (textList arguments) = .ok arguments := by
  rw [textList, ofList_text]
  exact readArguments_list arguments

/-! ## What tells the forms apart -/

namespace Statement

variable {arguments : List String}

/-- The columns of an index are joined, and have brackets unless there is just one. -/
theorem indexColumns_eq (arguments : List String) : indexColumns arguments =
    if arguments.length = 1 then Text.join ", " arguments
    else "[" ++ Text.join ", " arguments ++ "]" := by
  match arguments with
  | [] => rfl
  | [_] => rfl
  | _ :: _ :: _ => simp [indexColumns]

/-- One text names the columns of an index as their list does exactly if there is just one. -/
theorem indexColumns_join_iff :
    indexColumns [Text.join ", " arguments] = indexColumns arguments ↔ arguments.length = 1 := by
  have hone : indexColumns [Text.join ", " arguments] = Text.join ", " arguments := rfl
  rw [hone, indexColumns_eq]
  by_cases hlength : arguments.length = 1
  · simp [hlength]
  · rw [if_neg hlength]
    refine ⟨fun h => ?_, fun h => absurd h hlength⟩
    have hlonger := congrArg String.length h
    simp only [String.length_append] at hlonger
    have hbracket : "[".length = 1 := rfl
    omega

/-- The statements that add a field with one list of arguments and with another are the same exactly
if what is called is. -/
theorem addColumn_eq_iff (f : Field) (one many : List String) :
    addColumn (f.withArguments one) = addColumn (f.withArguments many) ↔
      builderCall (f.withArguments one) = builderCall (f.withArguments many) := by
  have hoptions : (f.withArguments one).options = (f.withArguments many).options := rfl
  rw [addColumn, addColumn, hoptions, String.append_left_inj, String.append_left_inj]

/-- A column is added alike with one text for its arguments and with their list, and an index is if
it has just one. -/
theorem addColumn_join_iff (f : Field) (hne : arguments ≠ []) :
    addColumn (f.withArguments [Text.join ", " arguments]) = addColumn (f.withArguments arguments) ↔
      f.type.isIndex = false ∨ arguments.length = 1 := by
  rw [addColumn_eq_iff, ← indexColumns_join_iff]
  cases hindex : f.type.isIndex with
  | false =>
    have hsome : arguments.isEmpty = false := by simpa using hne
    simp [builderCall, Field.withArguments, hindex, hsome, Text.join]
  | true =>
    simp [builderCall, Field.withArguments, hindex, String.append_left_inj, String.append_right_inj]

end Statement

/-- The problem of a field depends on its arguments only as to whether there are any. -/
theorem Field.problem?_withArguments (f : Field) {one many : List String} (hone : one ≠ [])
    (hmany : many ≠ []) : (f.withArguments one).problem? = (f.withArguments many).problem? := by
  have hsome (arguments : List String) (hne : arguments ≠ []) :
      ¬((f.withArguments arguments).type.isIndex = true ∧
        (f.withArguments arguments).arguments = []) := fun hindex => hne hindex.2
  unfold Field.problem?
  rw [if_neg (hsome one hone), if_neg (hsome many hmany)]
  rfl

/-- Two fields with one name and one problem are interchangeable for validation. -/
theorem fieldErrors_congr {f g : Field} (hname : f.name = g.name) (hproblem : f.problem? = g.problem?)
    (schema : String) (after : List Field) (before : List Field) (seen : List String) :
    fieldErrors schema seen (before ++ f :: after) = fieldErrors schema seen (before ++ g :: after) := by
  induction before generalizing seen with
  | nil => simp only [List.nil_append, fieldErrors, hname, hproblem]
  | cons first before ih => simp only [List.cons_append, fieldErrors, ih]

/-- A schema has the same errors with either of two such fields in one place. -/
theorem Schema.errors_congr {f g : Field} (hname : f.name = g.name)
    (hproblem : f.problem? = g.problem?) (s : Schema) (before after : List Field) :
    { s with fields := before ++ f :: after }.errors =
      { s with fields := before ++ g :: after }.errors := by
  rw [Schema.errors, Schema.errors, fieldErrors_congr hname hproblem]

namespace Field

/-- A field with a name, a type and modifiers is read. -/
theorem read_plain (surplus : Bool) (name keyword : String) {options : Options} {node : Node}
    (h : Options.read node = .ok options) :
    shape.read surplus (document [(.text "name", .text name), (.text "type", .text keyword)]
      (.list .close) (.member (.text "options") node .close)) =
        .ok { name, type := .ofKeyword keyword, options } := by
  have hname : shape.addMember (shape.blank, []) "name" (.text name) =
      .ok ({ name, type := .column "" }, ["name"]) := rfl
  have htype : shape.addMember ({ name, type := .column "" }, ["name"]) "type" (.text keyword) =
      .ok ({ name, type := .ofKeyword keyword }, ["type", "name"]) := rfl
  have harguments : shape.addMember ({ name, type := .ofKeyword keyword }, ["type", "name"])
      "arguments" (.list .close) =
        .ok ({ name, type := .ofKeyword keyword }, ["arguments", "type", "name"]) := rfl
  have hoptions : shape.addMember ({ name, type := .ofKeyword keyword },
      ["arguments", "type", "name"]) "options" node =
        .ok ({ name, type := .ofKeyword keyword, options },
          ["options", "arguments", "type", "name"]) := by
    have hfind : shape.slots.find? (·.name == "options") =
      some (slot "options" false Options.read fun f options => { f with options }) := rfl
    simp only [Shape.addMember, hfind, slot, h]
    rfl
  simp only [document, members, List.foldr_cons, List.foldr_nil, Shape.read, Shape.readNamed,
    readMembers, hname, htype, harguments, hoptions, bind, Except.bind]
  rfl

/-- A field with several arguments as one text and the same field with their list are read from
documents that are otherwise the same, or both refused with the same fault. If they are read,
validation finds the same errors in a schema that has the one or the other, and the statements that
add them are the same exactly if the field is no index or has just one argument. -/
theorem forms_alike_iff {arguments : List String} (hne : arguments ≠ [])
    (htexts : ∀ text ∈ arguments, text ≠ "") (surplus : Bool) :
    (∀ front back fault,
      shape.read surplus (document front (oneText arguments) back) = .error fault ↔
        shape.read surplus (document front (textList arguments) back) = .error fault) ∧
    (∀ front back one many,
      shape.read surplus (document front (oneText arguments) back) = .ok one →
      shape.read surplus (document front (textList arguments) back) = .ok many →
        (Statement.render .add .column one = Statement.render .add .column many ↔
          one.type.isIndex = false ∨ arguments.length = 1) ∧
        ∀ (s : Schema) (before after : List Field),
          { s with fields := before ++ one :: after }.errors =
            { s with fields := before ++ many :: after }.errors) ∧
    ∀ (name keyword : String) (options : Options) (node : Node),
      Options.read node = .ok options → ∃ one many : Field,
        shape.read surplus (document [(.text "name", .text name), (.text "type", .text keyword)]
          (oneText arguments) (.member (.text "options") node .close)) = .ok one ∧
        shape.read surplus (document [(.text "name", .text name), (.text "type", .text keyword)]
          (textList arguments) (.member (.text "options") node .close)) = .ok many ∧
        one.name = name ∧ one.type = .ofKeyword keyword ∧ one.options = options ∧
        many.name = name ∧ many.type = .ofKeyword keyword ∧ many.options = options := by
  have hone := readArguments_oneText hne htexts
  have hmany := readArguments_textList arguments
  refine ⟨fun front back fault => ?_, fun front back one many hread hread' => ?_,
    fun name keyword options node hoptions => ?_⟩
  · rw [read_document hone, read_document hmany]
    cases shape.read surplus (document front (.list .close) back) with
    | error => rfl
    | ok => exact ⟨nofun, nofun⟩
  · rw [read_document hone] at hread
    rw [read_document hmany] at hread'
    cases hothers : shape.read surplus (document front (.list .close) back) with
    | error => rw [hothers] at hread; cases hread
    | ok f =>
      rw [hothers] at hread hread'
      cases hread
      cases hread'
      have hproblem := f.problem?_withArguments (List.cons_ne_nil (Text.join ", " arguments) []) hne
      exact ⟨Statement.addColumn_join_iff f hne, Schema.errors_congr rfl hproblem⟩
  · have hothers := read_plain surplus name keyword hoptions
    rw [read_document hone, read_document hmany, hothers]
    exact ⟨_, _, rfl, rfl, rfl, rfl, rfl, rfl, rfl, rfl⟩

/-- An index of two columns, whose list of arguments and whose one text tell the statements apart. -/
theorem forms_alike_iff_index :
    let columns := ["'a'", "'b'"]
    let front : List (Node × Node) := [(.text "name", .text "ix"), (.text "type", .text "index")]
    columns ≠ [] ∧ (∀ text ∈ columns, text ≠ "") ∧ ∃ one many : Field,
      shape.read false (document front (oneText columns) .close) = .ok one ∧
      shape.read false (document front (textList columns) .close) = .ok many ∧
      (Statement.render .add .column one = Statement.render .add .column many ↔
        one.type.isIndex = false ∨ columns.length = 1) := by
  intro columns front
  have hne : columns ≠ [] := by decide
  have htexts : ∀ text ∈ columns, text ≠ "" := by decide
  have hone : shape.read false (document front (oneText columns) .close) =
      .ok { name := "ix", type := .index, arguments := ["'a', 'b'"] } := rfl
  have hmany : shape.read false (document front (textList columns) .close) =
      .ok { name := "ix", type := .index, arguments := columns } := rfl
  obtain ⟨-, halike, -⟩ := forms_alike_iff hne htexts false
  exact ⟨hne, htexts, _, _, hone, hmany, (halike front .close _ _ hone hmany).1⟩

/-- The two forms of arguments do not render alike for all fields. -/
theorem not_forms_alike : ¬∀ (arguments : List String), arguments ≠ [] →
    (∀ text ∈ arguments, text ≠ "") → ∀ (front : List (Node × Node)) (one many : Field),
      shape.read false (document front (oneText arguments) .close) = .ok one →
      shape.read false (document front (textList arguments) .close) = .ok many →
        Statement.render .add .column one = Statement.render .add .column many := by
  intro h
  have hsame := h ["'a'", "'b'"] (by decide) (by decide)
    [(.text "name", .text "ix"), (.text "type", .text "index")] _ _ rfl rfl
  have hlength := congrArg String.length hsame
  revert hlength
  decide +kernel

end Field

end SchemaForge
