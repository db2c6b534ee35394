import SchemaForge.Migration.Class
import SchemaForge.Proofs.Template.Substitution

/-!
# The layout of a migration class

`classLayout` and `wrapperLayout` are the literal pieces of the built-in templates with three texts
in their slots, and `classText_builtin` says that a migration class is exactly its layout: the class
name, the body of the change and the body that takes it back stand in the slots, once each and as
they are.

The pieces are sealed: no token starts in any of them. So is a table's name without a token, since a
quote follows it in every wrapper. The statements of the fields go in last, after every check, and
need no condition: nothing reads them again.
-/

namespace SchemaForge.Migration

open Template

/-! ## What an action means -/

/-- The kind of element that the fields of an action describe. -/
def elementKind : Action → ElementKind
  | .create | .update | .remove => .column
  | .createFunction => .function
  | .createTrigger => .trigger

/-- The direction in which the fields of an action are rendered for the change itself. -/
def upDirection (a : Action) : Direction := if a = .remove then .drop else .add

/-- The keyword of an action is resolved to what the action means. -/
theorem resolve_keyword (a : Action) : Resolution.resolve a.keyword =
    .ok ⟨a, elementKind a, upDirection a, if a = .create then .dropTable else .fields .drop⟩ := by
  cases a <;> rfl

/-! ## Pieces -/

/-- What a migration class has before its name. -/
def classHead : String :=
  "<?php\n\n" ++
  "use Illuminate\\Database\\Migrations\\Migration;\n" ++
  "use Illuminate\\Database\\Schema\\Blueprint;\n" ++
  "use Illuminate\\Support\\Facades\\DB;\n" ++
  "use Illuminate\\Support\\Facades\\Schema;\n\n" ++
  "class "

/-- What a migration class has between its name and its first body. -/
def classOpening : String :=
  " extends Migration\n\x7b\n" ++
  "    /**\n     * Run the migrations.\n     *\n     * @return void\n     */\n" ++
  "    public function up()\n    \x7b\n        "

/-- What a migration class has between its two bodies. -/
def classMiddle : String :=
  "\n    \x7d\n\n" ++
  "    /**\n     * Reverse the migrations.\n     *\n     * @return void\n     */\n" ++
  "    public function down()\n    \x7b\n        "

/-- What a migration class has after its second body. -/
def classEnd : String := "\n    \x7d\n\x7d\n"

/-- A migration class with its name and the bodies of its two methods. -/
def classLayout (className up down : String) : String :=
  classHead ++ className ++ classOpening ++ up ++ classMiddle ++ down ++ classEnd

/-- What a call of the schema builder has before the name of its table. -/
def tableHead (method : String) : String := "Schema::" ++ method ++ "('"

/-- What a call of the schema builder has between the name of its table and its statements. -/
def tableOpening : String := "', function (Blueprint $table) \x7b\n            "

/-- What a call of the schema builder has after its statements. -/
def tableEnd : String := "\n        \x7d);"

/-- A call of the schema builder with its table and the statements of both methods. -/
def tableLayout (method table up down : String) : String :=
  tableHead method ++ table ++ tableOpening ++ up ++ down ++ tableEnd

/-- The wrapper of an action with its table, if it names one, and the statements of both methods. -/
def wrapperLayout (a : Action) (table up down : String) : String :=
  match a with
  | .create => tableLayout "create" table up down
  | .update | .remove => tableLayout "table" table up down
  | .createFunction | .createTrigger => up ++ down

/-- The built-in template of migrations is its layout with the placeholders in the slots. -/
theorem load_migration : Source.builtin.load migrationName = .ok
    (classLayout "\x7b\x7bclass\x7d\x7d" "\x7b\x7bschema_up\x7d\x7d"
      "\x7b\x7bschema_down\x7d\x7d") := by
  have h : migrationText = classLayout "\x7b\x7bclass\x7d\x7d" "\x7b\x7bschema_up\x7d\x7d"
      "\x7b\x7bschema_down\x7d\x7d" := by decide +kernel
  rw [← h]
  rfl

/-- The built-in wrapper of an action is its layout with the placeholders in the slots. -/
theorem wrapper_builtin (a : Action) : Source.builtin.wrapper a = .ok
    (wrapperLayout a "\x7b\x7btable\x7d\x7d" "\x7b\x7bschema_up\x7d\x7d"
      "\x7b\x7bschema_down\x7d\x7d") := by
  have hcreate : trimBreaks (tableWrapperText "create") = tableLayout "create"
      "\x7b\x7btable\x7d\x7d" "\x7b\x7bschema_up\x7d\x7d" "\x7b\x7bschema_down\x7d\x7d" := by
    decide +kernel
  have htable : trimBreaks (tableWrapperText "table") = tableLayout "table"
      "\x7b\x7btable\x7d\x7d" "\x7b\x7bschema_up\x7d\x7d" "\x7b\x7bschema_down\x7d\x7d" := by
    decide +kernel
  cases a with
  | create => rw [wrapperLayout, ← hcreate]; rfl
  | createFunction => rfl
  | createTrigger => rfl
  | update => rw [wrapperLayout, ← htable]; rfl
  | remove => rw [wrapperLayout, ← htable]; rfl

/-! ## Sealed pieces -/

/-- No token starts in the head of a class. -/
theorem sealed_classHead : Sealed classHead.toList := sealed_of_no_opening (by decide +kernel)

theorem sealed_classOpening : Sealed classOpening.toList := sealed_of_no_opening (by decide +kernel)

theorem sealed_classMiddle : Sealed classMiddle.toList := sealed_of_no_opening (by decide +kernel)

theorem sealed_classEnd : Sealed classEnd.toList := sealed_of_no_opening (by decide)

theorem sealed_tableOpening : Sealed tableOpening.toList := sealed_of_no_opening (by decide +kernel)

theorem sealed_tableEnd : Sealed tableEnd.toList := sealed_of_no_opening (by decide)

/-- A name in upper camel case is sealed. -/
theorem sealed_className (a : Action) (table : String) : Sealed (className a table).toList :=
  sealed_plain (Text.upperCamel_plain _)

/-- A table's name without a token, with the quote that follows it in a wrapper, is sealed. -/
theorem sealed_table {table : String} (h : ¬HasToken table.toList) :
    Sealed (table ++ tableOpening).toList := by
  have hopening := sealed_tableOpening
  have hcons : tableOpening.toList =
      '\'' :: ", function (Blueprint $table) \x7b\n            ".toList := by decide +kernel
  rw [hcons] at hopening
  rw [String.toList_append, hcons]
  refine Sealed.append_of_not_hasToken h ?_ hopening
  exact fun t ht => ht.notMem (by decide) (by decide) (by decide) (by decide)

/-! ## Bodies -/

/-- A wrapper whose skeleton is sealed around the one slot that is left takes the statements into
that slot and is refused for nothing. -/
theorem fillHalf_eq {template wrapper table : String} {slot : Placeholder} {front back : String}
    (hbase : (skeleton wrapper slot table).toList = front.toList ++ (slot.token ++ back.toList))
    (hfront : Sealed front.toList) (hback : Sealed back.toList) (statements : String) :
    fillHalf template wrapper statements slot table = .ok (front ++ statements ++ back) := by
  have hfill : ∀ text, fill (skeleton wrapper slot table) slot text = front ++ text ++ back := by
    intro text
    apply String.toList_inj.mp
    rw [toList_fill, hbase, resolved_sealed_append _ hfront,
      resolved_token_append _ slot.isToken_token, resolved_sealed _ hback]
    simp [resolveToken]
  have hresolved : ensureResolved template (fill (skeleton wrapper slot table) slot "") =
      .ok () := by
    apply ensureResolved_of_sealed
    rw [hfill, String.toList_append, String.toList_append]
    exact (hfront.append (by simpa using sealed_nil)).append hback
  show (do
    ensureResolved template (fill (skeleton wrapper slot table) slot "")
    return fill (skeleton wrapper slot table) slot statements) = _
  rw [hresolved, hfill]
  rfl

/-- The characters of a schema builder's call with the placeholders in its slots. -/
theorem toList_tableLayout (method : String) :
    (tableLayout method "\x7b\x7btable\x7d\x7d" "\x7b\x7bschema_up\x7d\x7d"
      "\x7b\x7bschema_down\x7d\x7d").toList =
    (tableHead method).toList ++ (Placeholder.table.token ++ (tableOpening.toList ++
      (Placeholder.schemaUp.token ++ (Placeholder.schemaDown.token ++ tableEnd.toList)))) := by
  have htable : "\x7b\x7btable\x7d\x7d".toList = Placeholder.table.token := by decide
  have hup : "\x7b\x7bschema_up\x7d\x7d".toList = Placeholder.schemaUp.token := by decide
  have hdown : "\x7b\x7bschema_down\x7d\x7d".toList = Placeholder.schemaDown.token := by decide
  simp only [tableLayout, String.toList_append, htable, hup, hdown, List.append_assoc]

/-- What is left of a call of the schema builder for the statements of one method: the table is
named and the other slot is gone. -/
theorem toList_skeleton_table {method table : String} (hmethod : Sealed (tableHead method).toList)
    {slot : Placeholder} (hslot : slot = .schemaUp ∨ slot = .schemaDown) :
    (skeleton (tableLayout method "\x7b\x7btable\x7d\x7d" "\x7b\x7bschema_up\x7d\x7d"
      "\x7b\x7bschema_down\x7d\x7d") slot table).toList =
    (tableHead method ++ table ++ tableOpening).toList ++ (slot.token ++ tableEnd.toList) := by
  rw [skeleton, toList_substitute, toList_tableLayout, resolved_sealed_append _ hmethod,
    resolved_token_append _ (Placeholder.isToken_token _),
    resolved_sealed_append _ sealed_tableOpening,
    resolved_token_append _ (Placeholder.isToken_token _),
    resolved_token_append _ (Placeholder.isToken_token _), resolved_sealed _ sealed_tableEnd]
  rcases hslot with rfl | rfl <;>
    simp [resolveToken, otherSlot, Placeholder.token, Placeholder.name]

/-- A call of the schema builder takes the statements of either method. -/
theorem fillHalf_table {method table : String} (hmethod : Sealed (tableHead method).toList)
    (h : ¬HasToken table.toList) (template text : String) :
    fillHalf template (tableLayout method "\x7b\x7btable\x7d\x7d" "\x7b\x7bschema_up\x7d\x7d"
        "\x7b\x7bschema_down\x7d\x7d") text .schemaUp table =
        .ok (tableLayout method table text "") ∧
      fillHalf template (tableLayout method "\x7b\x7btable\x7d\x7d"
        "\x7b\x7bschema_up\x7d\x7d" "\x7b\x7bschema_down\x7d\x7d") text .schemaDown table =
        .ok (tableLayout method table "" text) := by
  have hfront : Sealed (tableHead method ++ table ++ tableOpening).toList := by
    rw [String.append_assoc, String.toList_append]
    exact hmethod.append (sealed_table h)
  rw [tableLayout.eq_def _ _ text "", tableLayout.eq_def _ _ "" text, String.append_empty,
    String.append_empty]
  exact ⟨fillHalf_eq (toList_skeleton_table hmethod (.inl rfl)) hfront sealed_tableEnd text,
    fillHalf_eq (toList_skeleton_table hmethod (.inr rfl)) hfront sealed_tableEnd text⟩

/-- What filling one method's slot of the wrapper of raw statements leaves of the text. -/
theorem fillHalf_routine (template table text : String) {slot : Placeholder}
    (hslot : slot = .schemaUp ∨ slot = .schemaDown) :
    fillHalf template ("\x7b\x7bschema_up\x7d\x7d" ++ "\x7b\x7bschema_down\x7d\x7d") text
      slot table = .ok text := by
  have htext : ("\x7b\x7bschema_up\x7d\x7d" ++ "\x7b\x7bschema_down\x7d\x7d").toList =
      Placeholder.schemaUp.token ++ (Placeholder.schemaDown.token ++ []) := by decide
  have hempty : Sealed "".toList := by simpa using sealed_nil
  have hbase : (skeleton ("\x7b\x7bschema_up\x7d\x7d" ++ "\x7b\x7bschema_down\x7d\x7d") slot
      table).toList = "".toList ++ (slot.token ++ "".toList) := by
    rw [skeleton, toList_substitute, htext,
      resolved_token_append _ (Placeholder.isToken_token _),
      resolved_token_append _ (Placeholder.isToken_token _), resolved_nil]
    rcases hslot with rfl | rfl <;>
      simp [resolveToken, otherSlot, Placeholder.token, Placeholder.name]
  rw [fillHalf_eq hbase hempty hempty text]
  simp

/-- The statements of a schema's fields in a direction, as an action needs them. -/
def statements (a : Action) (schema : Schema) (d : Direction) : String :=
  Statement.block schema.fields d (elementKind a) .closureBody

/-- The body of the change: the wrapper with the statements in its first slot. -/
def upBody (a : Action) (schema : Schema) : String :=
  wrapperLayout a schema.name (statements a schema (upDirection a)) ""

/-- The body that takes the change back: a whole table is dropped, otherwise the wrapper has the
dropping statements in its second slot. -/
def downBody (a : Action) (schema : Schema) : String :=
  if a = .create then "Schema::drop('" ++ schema.name ++ "');"
  else wrapperLayout a schema.name "" (statements a schema .drop)

/-- The wrapper of an action takes the statements of either method into its slot, names the table
and leaves the other slot empty. -/
theorem fillHalf_wrapper (a : Action) {table : String} (h : ¬HasToken table.toList)
    (template text : String) :
    fillHalf template (wrapperLayout a "\x7b\x7btable\x7d\x7d" "\x7b\x7bschema_up\x7d\x7d"
        "\x7b\x7bschema_down\x7d\x7d") text .schemaUp table =
        .ok (wrapperLayout a table text "") ∧
      fillHalf template (wrapperLayout a "\x7b\x7btable\x7d\x7d" "\x7b\x7bschema_up\x7d\x7d"
        "\x7b\x7bschema_down\x7d\x7d") text .schemaDown table =
        .ok (wrapperLayout a table "" text) := by
  have hcreate : Sealed (tableHead "create").toList := sealed_of_no_opening (by decide)
  have htable : Sealed (tableHead "table").toList := sealed_of_no_opening (by decide)
  have hroutine : fillHalf template ("\x7b\x7bschema_up\x7d\x7d" ++
        "\x7b\x7bschema_down\x7d\x7d") text .schemaUp table = .ok (text ++ "") ∧
      fillHalf template ("\x7b\x7bschema_up\x7d\x7d" ++ "\x7b\x7bschema_down\x7d\x7d") text
        .schemaDown table = .ok ("" ++ text) := by
    rw [String.append_empty, String.empty_append]
    exact ⟨fillHalf_routine template table text (.inl rfl),
      fillHalf_routine template table text (.inr rfl)⟩
  cases a with
  | create => exact fillHalf_table hcreate h template text
  | createFunction => exact hroutine
  | createTrigger => exact hroutine
  | update => exact fillHalf_table htable h template text
  | remove => exact fillHalf_table htable h template text

/-- The bodies of a migration under the built-in templates. -/
theorem bodies_builtin (a : Action) {schema : Schema} (h : ¬HasToken schema.name.toList) :
    bodies .builtin schema a.keyword = .ok ⟨upBody a schema, downBody a schema⟩ := by
  have hfill := fun text => fillHalf_wrapper a h (wrapperName a) text
  simp only [bodies, resolve_keyword, wrapper_builtin, bind, Except.bind, (hfill _).1]
  by_cases ha : a = .create
  · simp only [if_pos ha, downBody]
    rfl
  · simp only [if_neg ha, (hfill _).2, downBody]
    rfl

/-! ## The class -/

/-- The characters of a migration class with the placeholders in its slots. -/
theorem toList_classLayout :
    (classLayout "\x7b\x7bclass\x7d\x7d" "\x7b\x7bschema_up\x7d\x7d"
      "\x7b\x7bschema_down\x7d\x7d").toList =
    classHead.toList ++ (Placeholder.className.token ++ (classOpening.toList ++
      (Placeholder.schemaUp.token ++ (classMiddle.toList ++
        (Placeholder.schemaDown.token ++ classEnd.toList))))) := by
  have hclass : "\x7b\x7bclass\x7d\x7d".toList = Placeholder.className.token := by decide
  have hup : "\x7b\x7bschema_up\x7d\x7d".toList = Placeholder.schemaUp.token := by decide
  have hdown : "\x7b\x7bschema_down\x7d\x7d".toList = Placeholder.schemaDown.token := by decide
  simp only [classLayout, String.toList_append, hclass, hup, hdown, List.append_assoc]

/-- The template of migrations takes both bodies at once: they go in after the name of the class and
after the check, and nothing reads them. -/
theorem substitute_classLayout (a : Action) (table : String) (up down : String) :
    substitute (substitute (classLayout "\x7b\x7bclass\x7d\x7d" "\x7b\x7bschema_up\x7d\x7d"
        "\x7b\x7bschema_down\x7d\x7d") [(.className, className a table), (.table, table)])
      [(.schemaUp, up), (.schemaDown, down)] = classLayout (className a table) up down := by
  apply String.toList_inj.mp
  rw [toList_substitute, toList_substitute, toList_classLayout,
    resolved_sealed_append _ sealed_classHead,
    resolved_token_append _ (Placeholder.isToken_token _),
    resolved_sealed_append _ sealed_classOpening,
    resolved_token_append _ (Placeholder.isToken_token _),
    resolved_sealed_append _ sealed_classMiddle,
    resolved_token_append _ (Placeholder.isToken_token _), resolved_sealed _ sealed_classEnd]
  have hclass : resolveToken [(.className, className a table), (.table, table)]
      Placeholder.className.token = (className a table).toList := by
    simp [resolveToken]
  have hup : resolveToken [(.className, className a table), (.table, table)]
      Placeholder.schemaUp.token = Placeholder.schemaUp.token := by
    simp [resolveToken, Placeholder.token, Placeholder.name]
  have hdown : resolveToken [(.className, className a table), (.table, table)]
      Placeholder.schemaDown.token = Placeholder.schemaDown.token := by
    simp [resolveToken, Placeholder.token, Placeholder.name]
  rw [hclass, hup, hdown, resolved_sealed_append _ sealed_classHead,
    resolved_sealed_append _ (sealed_className a table),
    resolved_sealed_append _ sealed_classOpening,
    resolved_token_append _ (Placeholder.isToken_token _),
    resolved_sealed_append _ sealed_classMiddle,
    resolved_token_append _ (Placeholder.isToken_token _), resolved_sealed _ sealed_classEnd]
  simp [classLayout, resolveToken, Placeholder.token, Placeholder.name]

/-- A migration class without its bodies is sealed. -/
theorem sealed_classLayout (a : Action) (table : String) :
    Sealed (classLayout (className a table) "" "").toList := by
  have hopening := (sealed_classHead.append (sealed_className a table)).append sealed_classOpening
  simpa [classLayout] using (hopening.append sealed_classMiddle).append sealed_classEnd

/-- A class takes its bodies when nothing is refused. -/
theorem classText_eq {source : Source} {schema : Schema} {a : Action} {b : Bodies}
    {template : String} (hbodies : bodies source schema a.keyword = .ok b)
    (hload : source.load migrationName = .ok template)
    (hresolved : ensureResolved migrationName (substitute (substitute template
      [(.className, className a schema.name), (.table, schema.name)])
      [(.schemaUp, ""), (.schemaDown, "")]) = .ok ()) :
    classText source schema a = .ok (substitute (substitute template
      [(.className, className a schema.name), (.table, schema.name)])
      [(.schemaUp, b.up), (.schemaDown, b.down)]) := by
  simp only [classText, hbodies, hload, hresolved, bind, Except.bind]
  rfl

/-- The text of a migration class under the built-in templates. -/
theorem classText_eq_layout (a : Action) {schema : Schema} (h : ¬HasToken schema.name.toList) :
    classText .builtin schema a =
      .ok (classLayout (className a schema.name) (upBody a schema) (downBody a schema)) := by
  -- The check sees the class without bodies; the bodies go in afterwards.
  have hbase := substitute_classLayout a schema.name
  have hresolved : ensureResolved migrationName
      (classLayout (className a schema.name) "" "") = .ok () :=
    ensureResolved_of_sealed _ (sealed_classLayout a schema.name)
  rw [classText_eq (bodies_builtin a h) load_migration (by rw [hbase]; exact hresolved), hbase]

/-- A migration under the built-in templates is its layout. The template of migrations and the
wrapper of the action are layouts with the placeholders in their slots, and the class has in these
slots the class name, the body of the change and the body that takes it back. No condition concerns
the fields: their statements are never read as tokens. -/
theorem classText_builtin (a : Action) (schema : Schema) (h : ¬HasToken schema.name.toList) :
    Source.builtin.load migrationName = .ok
        (classLayout "\x7b\x7bclass\x7d\x7d" "\x7b\x7bschema_up\x7d\x7d"
          "\x7b\x7bschema_down\x7d\x7d") ∧
      Source.builtin.wrapper a = .ok
        (wrapperLayout a "\x7b\x7btable\x7d\x7d" "\x7b\x7bschema_up\x7d\x7d"
          "\x7b\x7bschema_down\x7d\x7d") ∧
      classText .builtin schema a =
        .ok (classLayout (className a schema.name) (upBody a schema) (downBody a schema)) :=
  ⟨load_migration, wrapper_builtin a, classText_eq_layout a h⟩

/-- A trigger whose statements are full of tokens is put in as it is, also for a table whose name
almost opens a token. -/
theorem classText_builtin_trigger :
    let schema : Schema := ⟨"a\x7b\x7b", [.storedTrigger "t" "\x7b\x7btable\x7d\x7d"
      "\x7b\x7bschema_down\x7d\x7d \x7b\x7bclass\x7d\x7d"], false⟩
    ¬HasToken schema.name.toList ∧ classText .builtin schema .createTrigger =
      .ok (classLayout (className .createTrigger schema.name) (upBody .createTrigger schema)
        (downBody .createTrigger schema)) := by
  have h : ¬HasToken "a\x7b\x7b".toList := by decide +kernel
  exact ⟨h, (classText_builtin .createTrigger _ h).2.2⟩

end SchemaForge.Migration
