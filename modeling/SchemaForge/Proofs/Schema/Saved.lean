import SchemaForge.Proofs.Document.Record
import SchemaForge.Proofs.Storage.Change
import SchemaForge.Schema.File

/-!
# Saved sets of schemas

A set of schemas that is saved is loaded as it was. What a document cannot tell apart is excluded by
`SchemaSet.IsCanonical`: a column type whose keyword is that of another type, two modifiers of one
name, and reals. The proof follows the writer: each record is read from the members that it is
written with, and what is left out has the value that a missing member stands for.
-/

namespace SchemaForge

open Document
open Document.Json (Value FitsWord itemNodes memberNodes)

/-- What a slot reads is put into the record. -/
theorem fill_slot {α β : Type} {name : String} {required : Bool} {read : Reader β}
    {put : α → β → α} {record : α} {node : Node} {b : β} (h : read node = .ok b) :
    (slot name required read put).fill record node = .ok (put record b) :=
  congrArg (Except.map (put record)) h

/-! ## Types -/

/-- A type that its keyword stands for: the keyword of a column type is not that of another type. -/
def FieldType.IsCanonical (type : FieldType) : Prop :=
  ∀ word, type = .column word → ∀ other ∈ reserved, word ≠ other.keyword

/-- A type is read from its keyword. -/
theorem FieldType.ofKeyword_keyword {type : FieldType} (h : type.IsCanonical) :
    ofKeyword type.keyword = type := by
  cases type with
  | column word =>
    have hnone : reserved.find? (·.keyword == word) = none := by
      rw [List.find?_eq_none]
      intro other hother
      simpa using Ne.symm (h word rfl other hother)
    rw [keyword, ofKeyword, hnone, Option.getD_none]
  | _ => rfl

/-! ## Modifiers -/

namespace OptionValue

/-- A value that is not a real. -/
def IsExact : OptionValue → Prop
  | real _ => False
  | _ => True

/-- A whole number of a modifier fits into 64 bits. -/
theorem fitsWord_toInt (n : Int64) : FitsWord n.toInt := by
  have hlow := n.le_toInt
  have hhigh := n.toInt_lt
  constructor
  · rw [Json.negativeLimit]
    omega
  · rw [Json.wholeLimit]
    omega

/-- The value of a modifier is read back. -/
theorem read_toJson {value : OptionValue} (h : value.IsExact) :
    read value.toJson.toNode = .ok value := by
  cases value with
  | flag on => rfl
  | literal text => rfl
  | real x => exact h.elim
  | integer n =>
    have hrange : Int64.minValue.toInt ≤ n.toInt ∧ n.toInt ≤ Int64.maxValue.toInt :=
      ⟨n.minValue_le_toInt, n.toInt_le⟩
    simp only [toJson, Value.toNode, read, Node.isReadable, ofInteger, if_pos hrange,
      Int64.ofInt_toInt]
    rfl

/-- The value of a modifier is written plainly. -/
theorem plain_toJson {value : OptionValue} (h : value.IsExact) (depth : ℕ) :
    value.toJson.Plain depth := by
  cases value with
  | flag on => exact .flag depth on
  | integer n => exact .integer depth (fitsWord_toInt n)
  | real x => exact h.elim
  | literal text => exact .text depth text

end OptionValue

/-- A modifier with a new name comes last. -/
theorem Options.insert_of_notMem {options : Options} {method : String} {value : OptionValue}
    (h : method ∉ options.map Prod.fst) :
    options.insert method value = options ++ [(method, value)] := by
  induction options with
  | nil => rfl
  | cons entry rest ih =>
    obtain ⟨name, old⟩ := entry
    obtain ⟨hname, hrest⟩ := not_or.mp (mt List.mem_cons.mpr h)
    rw [Options.insert, if_neg (Ne.symm hname), ih hrest, List.cons_append]

/-- The value of modifiers, as a field has it. -/
def Options.toJson (options : Options) : Value :=
  .object (options.map fun (method, value) => (method, value.toJson))

/-- Modifiers with different names are read back, in their order. -/
theorem Options.read_toJson {options : Options} (hdistinct : (options.map Prod.fst).Nodup)
    (hexact : ∀ option ∈ options, option.2.IsExact) :
    Options.read options.toJson.toNode = .ok options := by
  -- The modifiers that have been read stand in front of those that are still to be read.
  suffices hrun : ∀ rest done : Options, ((done ++ rest).map Prod.fst).Nodup →
      (∀ option ∈ rest, option.2.IsExact) →
      readMembers (fun options method node =>
        (OptionValue.read node).map fun value => options.insert method value) done
        (memberNodes (rest.map fun (method, value) => (method, value.toJson))) =
          .ok (done ++ rest) from
    hrun options [] hdistinct hexact
  intro rest
  induction rest with
  | nil => exact fun done _ _ => by simp [memberNodes, readMembers]
  | cons entry rest ih =>
    intro done hdistinct hexact
    obtain ⟨method, value⟩ := entry
    obtain ⟨hvalue, hrest⟩ := List.forall_mem_cons.mp hexact
    have hfresh : method ∉ done.map Prod.fst := by
      rw [List.map_append, List.map_cons, List.nodup_middle, List.nodup_cons] at hdistinct
      exact fun hmem => hdistinct.1 (List.mem_append_left _ hmem)
    have hmore := ih (done ++ [(method, value)]) (by simpa using hdistinct) hrest
    rw [List.append_assoc, List.singleton_append] at hmore
    rw [List.map_cons, memberNodes, readMembers]
    simp only [OptionValue.read_toJson hvalue, Except.map, Options.insert_of_notMem hfresh]
    exact hmore

/-! ## Arguments -/

/-- The texts of a list of texts. -/
theorem textItems?_map (texts : List String) :
    textItems? (itemNodes (texts.map .text)) = some texts := by
  induction texts with
  | nil => rfl
  | cons text texts ih => rw [List.map_cons, itemNodes, Value.toNode, textItems?, ih]; rfl

/-- A list of texts has a meaning. -/
theorem isReadable_itemNodes_text (texts : List String) :
    (itemNodes (texts.map .text)).isReadable = true := by
  induction texts with
  | nil => rfl
  | cons text texts ih => rw [List.map_cons, itemNodes, Items.isReadable, ih]; rfl

/-- Arguments that are written as a list are read back, however many there are. -/
theorem readArguments_list (arguments : List String) :
    readArguments (Value.list (arguments.map .text)).toNode = .ok arguments := by
  simp [readArguments, Value.toNode, Node.isReadable, isReadable_itemNodes_text, textItems?_map]

/-! ## Fields -/

/-- A field that a document can describe. -/
structure Field.IsCanonical (f : Field) : Prop where
  /-- Its type is what its keyword stands for. -/
  type : f.type.IsCanonical
  /-- No two modifiers have one name. -/
  distinct : (f.options.map Prod.fst).Nodup
  /-- No modifier is a real. -/
  noReal : ∀ option ∈ f.options, option.2.IsExact

namespace Field

variable {f : Field}

/-- A statement that is there fills its slot, and one that is not leaves the field as it is. -/
theorem fills_optionalMember (name : String) (before : Field) (statement : Option String)
    {put : Field → Option String → Field} (hfind : shape.slots.find? (·.name == name) =
      some (slot name false (readOptional readText) put)) (hnone : put before none = before) :
    shape.Fills before (optionalMember name statement) (put before statement) := by
  cases statement with
  | none => rw [hnone]; exact .nil before
  | some text => exact .single hfind rfl

/-- Modifiers that are there fill their slot, and without modifiers the field stays as it is. -/
theorem fills_options (h : f.IsCanonical) {before : Field} (hnone : before.options = []) :
    shape.Fills before
      (if f.options.isEmpty then []
        else [("options", .object (f.options.map fun (method, value) => (method, value.toJson)))])
      { before with options := f.options } := by
  by_cases hempty : f.options.isEmpty
  · rw [if_pos hempty, List.isEmpty_iff.mp hempty, ← hnone]
    exact .nil before
  · rw [if_neg hempty]
    exact .single rfl (fill_slot (Options.read_toJson h.distinct h.noReal))

/-- The members that a field is written with fill the field. -/
theorem fills_toJson (h : f.IsCanonical) : ∃ members, f.toJson = .object members ∧
    shape.Fills shape.blank members f ∧ (members.map Prod.fst).Sublist shape.names ∧
    ["name", "type"] ⊆ members.map Prod.fst := by
  have htype : FieldType.read (.text f.type.keyword) = .ok f.type :=
    congrArg Except.ok (FieldType.ofKeyword_keyword h.type)
  have hname : shape.Fills shape.blank [("name", .text f.name)]
      { name := f.name, type := .column "" } := .single rfl rfl
  have htyped : shape.Fills { name := f.name, type := .column "" }
      [("type", .text f.type.keyword)] { name := f.name, type := f.type } :=
    .single rfl (fill_slot htype)
  have harguments : shape.Fills { name := f.name, type := f.type }
      [("arguments", .list (f.arguments.map .text))]
      { name := f.name, type := f.type, arguments := f.arguments } :=
    .single rfl (fill_slot (readArguments_list f.arguments))
  have hhead := hname.append (htyped.append harguments)
  have hup := fills_optionalMember "sql_up"
    { name := f.name, type := f.type, arguments := f.arguments, options := f.options } f.sqlUp rfl rfl
  have hdown := fills_optionalMember "sql_down" { f with sqlDown := none } f.sqlDown rfl rfl
  refine ⟨_, rfl, ((hhead.append (fills_options h rfl)).append hup).append hdown, ?_, ?_⟩
  · have hoptional (name : String) (statement : Option String) :
        ((optionalMember name statement).map Prod.fst).Sublist [name] := by
      cases statement <;> simp [optionalMember]
    have hoptions : ((if f.options.isEmpty then [] else [("options", Value.object
        (f.options.map fun (method, value) => (method, value.toJson)))]).map Prod.fst).Sublist
        ["options"] := by
      split <;> simp
    have hnames : shape.names = ["name", "type", "arguments"] ++ ["options"] ++ ["sql_up"] ++
        ["sql_down"] := rfl
    rw [hnames, List.map_append, List.map_append, List.map_append]
    exact ((List.Sublist.append (.refl _) hoptions).append (hoptional _ _)).append (hoptional _ _)
  · intro name hmem
    simp only [List.map_append, List.mem_append]
    exact .inl (.inl (.inl (List.mem_of_mem_take (i := 2) hmem)))

/-- A field is read back. -/
theorem read_toJson (surplus : Bool) (h : f.IsCanonical) :
    shape.read surplus f.toJson.toNode = .ok f := by
  obtain ⟨members, htext, hfills, hnames, hneeded⟩ := fills_toJson h
  have hdistinct : shape.names.Nodup := by decide
  rw [htext]
  exact Shape.read_of_fills surplus hfills (hnames.nodup hdistinct) hneeded

/-- A field is written plainly: its arguments and modifiers are nested in it. -/
theorem plain_toJson (h : f.IsCanonical) (depth : ℕ) : f.toJson.Plain (depth + 2) := by
  refine .object fun m hm => ?_
  simp only [optionalMember, List.mem_append, List.mem_cons, List.not_mem_nil, or_false,
    List.mem_map] at hm
  obtain (((rfl | rfl | rfl) | hoptions) | ⟨_, _, rfl⟩) | ⟨_, _, rfl⟩ := hm
  · exact .text _ f.name
  · exact .text _ f.type.keyword
  · refine .list fun v hv => ?_
    obtain ⟨argument, -, rfl⟩ := List.mem_map.mp hv
    exact .text depth argument
  · split at hoptions
    · cases hoptions
    · cases List.mem_singleton.mp hoptions
      refine .object fun m hm => ?_
      obtain ⟨option, hoption, rfl⟩ := List.mem_map.mp hm
      exact OptionValue.plain_toJson (h.noReal option hoption) depth
  · exact .text _ _
  · exact .text _ _

end Field

/-! ## Schemas -/

namespace Schema

variable {s : Schema}

/-- A schema is read back if its fields are canonical. -/
theorem read_toJson (surplus : Bool) (h : ∀ f ∈ s.fields, f.IsCanonical) :
    (shape surplus).read surplus s.toJson.toNode = .ok s := by
  have hfields : readList (Field.shape.read surplus) (Value.list (s.fields.map Field.toJson)).toNode =
      .ok s.fields :=
    readList_map fun f hf => Field.read_toJson surplus (h f hf)
  have hname : (shape surplus).Fills (shape surplus).blank [("name", .text s.name)]
      { name := s.name } := .single rfl rfl
  have hfilled : (shape surplus).Fills { name := s.name }
      [("fields", .list (s.fields.map Field.toJson))] { name := s.name, fields := s.fields } :=
    .single rfl (fill_slot hfields)
  have hwritten := hname.append hfilled
  obtain ⟨name, fields, drop⟩ := s
  cases drop with
  | false =>
    exact Shape.read_of_fills surplus hwritten (show ["name", "fields"].Nodup by decide)
      (show ["name"] ⊆ ["name", "fields"] by decide)
  | true =>
    have hdrop : (shape surplus).Fills { name, fields } [("drop", .flag true)]
        { name, fields, drop := true } := .single rfl rfl
    exact Shape.read_of_fills surplus (hwritten.append hdrop)
      (show ["name", "fields", "drop"].Nodup by decide)
      (show ["name"] ⊆ ["name", "fields", "drop"] by decide)

/-- A schema is written plainly if its fields are canonical. -/
theorem plain_toJson (h : ∀ f ∈ s.fields, f.IsCanonical) (depth : ℕ) :
    s.toJson.Plain (depth + 4) := by
  refine .object fun m hm => ?_
  simp only [List.mem_append, List.mem_cons, List.not_mem_nil, or_false] at hm
  obtain (rfl | rfl) | hdrop := hm
  · exact .text _ s.name
  · refine .list fun v hv => ?_
    obtain ⟨f, hf, rfl⟩ := List.mem_map.mp hv
    exact Field.plain_toJson (h f hf) depth
  · split at hdrop
    · cases List.mem_singleton.mp hdrop
      exact .flag _ true
    · cases hdrop

end Schema

/-! ## Sets -/

namespace SchemaSet

variable {s : SchemaSet}

/-- A set that a document can describe: all its fields are canonical. -/
def IsCanonical (s : SchemaSet) : Prop :=
  ∀ a, ∀ schema ∈ s.schemas a, ∀ f ∈ schema.fields, f.IsCanonical

/-- A section that is read is put into the set. -/
theorem fills_section (surplus : Bool) (h : s.IsCanonical) (a : Action) (before : SchemaSet) :
    (shape surplus).Fills before [(a.keyword, .list ((s.schemas a).map Schema.toJson))]
      (before.withSchemas (s.schemas a) a) := by
  have hread : readList ((Schema.shape surplus).read surplus)
      (Value.list ((s.schemas a).map Schema.toJson)).toNode = .ok (s.schemas a) :=
    readList_map fun schema hschema => Schema.read_toJson surplus (h a schema hschema)
  have hfind : (shape surplus).slots.find? (·.name == a.keyword) = some (sectionSlot surplus a) := by
    cases a <;> rfl
  exact .single hfind (fill_slot hread)

/-- A set is read back. -/
theorem read_toJson (surplus : Bool) (h : s.IsCanonical) :
    (shape surplus).read surplus s.toJson.toNode = .ok s := by
  have hfills : (shape surplus).Fills empty
      (Action.all.map fun a => (a.keyword, .list ((s.schemas a).map Schema.toJson))) s :=
    (fills_section surplus h .create empty).append <|
      (fills_section surplus h .createFunction _).append <|
      (fills_section surplus h .createTrigger _).append <|
      (fills_section surplus h .update _).append <| fills_section surplus h .remove _
  exact Shape.read_of_fills surplus hfills (show (Action.all.map Action.keyword).Nodup by decide)
    (List.nil_subset _)

/-- A set is written plainly. -/
theorem plain_toJson (h : s.IsCanonical) (depth : ℕ) : s.toJson.Plain (depth + 6) := by
  refine .object fun m hm => ?_
  obtain ⟨a, -, rfl⟩ := List.mem_map.mp hm
  refine .list fun v hv => ?_
  obtain ⟨schema, hschema, rfl⟩ := List.mem_map.mp hv
  exact Schema.plain_toJson (h a schema hschema) depth

/-- The saved text of a set describes the set. -/
theorem parse_savedText (h : s.IsCanonical) : parse .json s.savedText = .ok s := by
  have hplain : s.toJson.Plain Json.maxDepth := plain_toJson h 121
  rw [parse, savedText, Json.decode_pretty _ hplain, read_toJson false h]
  rfl

/-- A set that is saved without an error is in the file at the path. -/
theorem read_of_save {d d' : Disk} {p : Path} (h : s.save d p = (d', none)) :
    d'.read p = .ok s.savedText := by
  unfold save at h
  split at h
  · cases h
  · split at h
    · next hwrite => cases h; exact Disk.read_write hwrite
    · cases h

/-- Saving loses nothing: the text of a canonical set describes the set as it was, with its sections,
schemas, fields, arguments and modifiers in their order. A file that is saved without an error holds
that text and is loaded as the set, and the loaded set is saved as the same text. -/
theorem parse_savedText_and_load (h : s.IsCanonical) :
    parse .json s.savedText = .ok s ∧
      (∀ d d' p, s.save d p = (d', none) → d'.read p = .ok s.savedText ∧
        (SchemaFormat.ofPath p = .ok .json → load d' p = .ok s)) ∧
      ∀ loaded, parse .json s.savedText = .ok loaded → loaded.savedText = s.savedText := by
  have hparse := parse_savedText h
  refine ⟨hparse, fun d d' p hsave => ⟨read_of_save hsave, fun hformat => ?_⟩, fun loaded hloaded => ?_⟩
  · simp only [load, hformat, bind, Except.bind, read_of_save hsave, hparse, Except.mapError]
  · rw [hparse] at hloaded
    cases hloaded
    rfl

/-- A set with a field of each kind that is hard to write: names and statements with quotes,
backslashes and control characters, an empty text for an argument, the least whole number, modifiers
out of alphabetical order, a statement that is empty and one that is missing, and a dropped schema
without fields. -/
def intricate : SchemaSet where
  create := [{ name := "a\"b\\c", fields := [
    { name := "n\n\x01é", type := .column "string", arguments := [""],
      options := [("unsigned", .flag true), ("default", .literal "'\t'"),
        ("length", .integer Int64.minValue)] },
    { name := "", type := .index, arguments := ["a", "b"] }] }]
  createFunction := [{ name := "f", fields := [{ name := "g", type := .function, sqlUp := some "" }] }]
  remove := [{ name := "old", drop := true }]

/-- The intricate set is canonical, so its text describes it, and it is loaded from the file that it
is saved to. -/
theorem parse_savedText_and_load_intricate : intricate.IsCanonical ∧
    parse .json intricate.savedText = .ok intricate ∧
      ∃ d, intricate.save (.bare []) ⟨"set.json"⟩ = (d, none) ∧
        d.read ⟨"set.json"⟩ = .ok intricate.savedText ∧ load d ⟨"set.json"⟩ = .ok intricate := by
  have h : intricate.IsCanonical := by
    intro a schema hschema f hf
    cases a with
    | create =>
      obtain rfl := List.mem_singleton.mp hschema
      rcases List.mem_pair.mp hf with rfl | rfl
      · exact ⟨by rintro word ⟨⟩; decide, by decide, by simp [OptionValue.IsExact]⟩
      · exact ⟨nofun, by decide, nofun⟩
    | createFunction =>
      obtain rfl := List.mem_singleton.mp hschema
      obtain rfl := List.mem_singleton.mp hf
      exact ⟨nofun, by decide, nofun⟩
    | createTrigger => cases hschema
    | update => cases hschema
    | remove =>
      obtain rfl := List.mem_singleton.mp hschema
      cases hf
  obtain ⟨hparse, hsaved, -⟩ := parse_savedText_and_load h
  obtain ⟨d, hsave⟩ : ∃ d, intricate.save (.bare []) ⟨"set.json"⟩ = (d, none) := ⟨_, rfl⟩
  obtain ⟨hread, hload⟩ := hsaved _ _ _ hsave
  exact ⟨h, hparse, d, hsave, hread, hload rfl⟩

end SchemaSet

end SchemaForge
