import SchemaForge.Proofs.Migration.Compile
import SchemaForge.Proofs.Template.Staging

/-!
# Migrations in one pass

A wrapper is filled in two steps, the names first and the statements after a check, and so is the
template of migrations. Both steps together come to one pass over the template, in which nothing
that is put in is read again, unless the names that go in first make an insertion point that the
template does not have (`one_pass_of_ok`).

A wrapper with such a place is refused when both of its slots take statements: each half fills one
slot last, and the half that fills the other one leaves the place over. The wrapper of `create` has
no second half, so a table that is named like the slot gets its statements into its own name.
-/

namespace SchemaForge.Migration

open Template

/-- How often a placeholder is in a text. -/
def slots (p : Placeholder) (text : String) : ℕ := (tokens text.toList).count p.token

/-! ## Statements of one half -/

/-- Statements call something. -/
theorem opening_mem_render (d : Direction) (k : ElementKind) (f : Field) :
    '(' ∈ (Statement.render d k f).toList := by
  cases d <;> cases k <;>
    simp [Statement.render, Statement.addColumn, Statement.dropColumn, Statement.builderCall,
      Statement.raw]

/-- The statements of an action, if there are any, call something. -/
theorem statements_eq_empty_or (a : Action) (schema : Schema) (d : Direction) :
    statements a schema d = "" ∨ '(' ∈ (statements a schema d).toList := by
  rw [statements, Statement.block]
  cases schema.fields with
  | nil => exact .inl rfl
  | cons f rest =>
    right
    cases rest with
    | nil => exact opening_mem_render d _ f
    | cons g fields =>
      simp only [List.map_cons, Text.join, String.toList_append]
      exact List.mem_append_left _ (List.mem_append_left _ (opening_mem_render d _ f))

/-- Statements differ from a token in how often they have some character. -/
theorem exists_count_ne (a : Action) (schema : Schema) (d : Direction) (p : Placeholder) :
    ∃ c, (statements a schema d).toList.count c ≠ p.token.count c := by
  rcases statements_eq_empty_or a schema d with hempty | hcall
  · refine ⟨'{', ?_⟩
    rw [hempty]
    cases p <;> decide
  · refine ⟨'(', ?_⟩
    have hpos := List.count_pos_iff.mpr hcall
    have hnone : p.token.count '(' = 0 := by cases p <;> decide
    omega

/-- Two numbers of tokens are equal if filling them comes to the same number of some character. -/
theorem eq_of_fills {before after token value n m : ℕ} (hne : value ≠ token) (hle : m ≤ n)
    (hn : after + n * token = before + n * value) (hm : after + m * token = before + m * value) :
    n = m := by
  obtain ⟨more, rfl⟩ := Nat.exists_eq_add_of_le hle
  rw [Nat.add_mul, Nat.add_mul] at hn
  have hmore : more * value = more * token := by omega
  rcases Nat.eq_zero_or_pos more with rfl | hpos
  · rfl
  · exact absurd (Nat.eq_of_mul_eq_mul_left hpos hmore) hne

/-- Two numbers of slots are equal if filling them comes to the same number of calls. -/
theorem eq_of_calls {n n' m m' calls calls' : ℕ} (hcalls : 0 < calls) (hcalls' : 0 < calls')
    (hle : m ≤ n) (hle' : m' ≤ n') (h : n * calls + n' * calls' = m * calls + m' * calls') :
    n = m ∧ n' = m' := by
  have hfirst := Nat.mul_le_mul_right calls hle
  have hsecond := Nat.mul_le_mul_right calls' hle'
  exact ⟨Nat.eq_of_mul_eq_mul_right hcalls (by omega),
    Nat.eq_of_mul_eq_mul_right hcalls' (by omega)⟩

/-! ## Halves of a migration -/

section Half

variable {template wrapper text table body : String}

/-- Filling a slot of the skeleton is the second of two passes over the wrapper. -/
theorem toList_fill_skeleton (wrapper text table : String) (slot : Placeholder) :
    (fill (skeleton wrapper slot table) slot text).toList = resolved [(slot, text)]
      (resolved ([(.table, table)] ++ [(otherSlot slot, "")]) wrapper.toList) := by
  rw [toList_fill, skeleton, toList_substitute]
  rfl

/-- The body of the change is what a single pass makes of the wrapper exactly if naming the table
and clearing the other slot makes no new slot. -/
theorem up_eq_substitute_iff (h : fillHalf template wrapper text .schemaUp table = .ok body)
    (hcount : ∃ c, text.toList.count c ≠ Placeholder.schemaUp.token.count c) :
    body = substitute wrapper [(.table, table), (.schemaUp, text), (.schemaDown, "")] ↔
      slots .schemaUp (skeleton wrapper .schemaUp table) = slots .schemaUp wrapper := by
  obtain ⟨hresolved, rfl⟩ := fillHalf_eq_ok_iff.mp h
  rw [toList_fill_skeleton] at hresolved
  have hskeleton : (skeleton wrapper .schemaUp table).toList =
      resolved ([(.table, table)] ++ [(.schemaDown, "")]) wrapper.toList := toList_substitute _ _
  have hunlisted : ∀ v ∈ [(Placeholder.table, table)] ++ [(.schemaDown, "")],
      v.1.token ≠ Placeholder.schemaUp.token := by
    simp [Placeholder.token, Placeholder.name]
  have hone : (substitute wrapper [(.table, table), (.schemaUp, text), (.schemaDown, "")]).toList =
      resolved ([(.table, table)] ++ [(.schemaDown, "")] ++ [(.schemaUp, text)]) wrapper.toList := by
    rw [toList_substitute]
    exact resolved_swap (by decide) [(.table, table)] text "" wrapper.toList
  rw [slots, slots, hskeleton, ← count_kept hunlisted wrapper.toList]
  constructor
  · intro heq
    have hlists := congrArg String.toList heq
    rw [toList_fill_skeleton, hone] at hlists
    obtain ⟨c, hc⟩ := hcount
    -- Every slot that is filled changes how often the text has this character, by the same number.
    have hnone : ∀ v ∈ ([] : List (Placeholder × String)),
        v.1.token ≠ Placeholder.schemaUp.token := List.forall_mem_nil _
    have htwo := count_resolved c hnone text
      (resolved ([(.table, table)] ++ [(.schemaDown, "")]) wrapper.toList)
    have hsingle := count_resolved c hunlisted text wrapper.toList
    rw [resolved_no_values, List.nil_append] at htwo
    rw [← hlists, ← count_kept hunlisted] at hsingle
    -- Naming the table leaves the slots of the wrapper there, so there cannot be fewer.
    have hle := (kept_sublist ([(.table, table)] ++ [(.schemaDown, "")]) [] wrapper.toList).count_le
      Placeholder.schemaUp.token
    exact eq_of_fills hc hle htwo hsingle
  · intro hslots
    apply String.toList_inj.mp
    rw [toList_fill_skeleton, hone]
    -- The check lets no other token through to the second pass than that of the slot.
    refine resolved_staged_of_count _ fun t ht => ?_
    obtain ⟨htoken, hin⟩ := mem_tokens.mp ht
    obtain ⟨v, hv, rfl⟩ := exists_placeholder_of_resolved hresolved htoken hin
    obtain rfl : v = (.schemaUp, "") := by simpa using hv
    exact hslots

/-- If both halves take their statements, both bodies are what a single pass makes of the wrapper. -/
theorem fillHalf_eq_substitute {up down upText downText : String}
    (hup : fillHalf template wrapper upText .schemaUp table = .ok up)
    (hdown : fillHalf template wrapper downText .schemaDown table = .ok down) :
    up = substitute wrapper [(.table, table), (.schemaUp, upText), (.schemaDown, "")] ∧
      down = substitute wrapper [(.table, table), (.schemaUp, ""), (.schemaDown, downText)] := by
  obtain ⟨hupResolved, rfl⟩ := fillHalf_eq_ok_iff.mp hup
  obtain ⟨hdownResolved, rfl⟩ := fillHalf_eq_ok_iff.mp hdown
  rw [toList_fill_skeleton] at hupResolved hdownResolved
  constructor
  · apply String.toList_inj.mp
    have hswap := resolved_swap (p := .schemaUp) (q := .schemaDown) (by decide) [(.table, table)]
      upText "" wrapper.toList
    rw [toList_fill_skeleton, toList_substitute]
    exact (resolved_staged_of_both_orders (by decide) hupResolved hdownResolved upText).trans
      hswap.symm
  · apply String.toList_inj.mp
    rw [toList_fill_skeleton, toList_substitute]
    exact resolved_staged_of_both_orders (by decide) hdownResolved hupResolved downText

end Half

/-! ## The class -/

section Class

variable {template className table up down text : String}

/-- The template of migrations with the names put in. -/
def named (template className table : String) : String :=
  substitute template [(.className, className), (.table, table)]

/-- The names are no bodies. -/
theorem notMem_named {p : Placeholder} (hp : p = .schemaUp ∨ p = .schemaDown) :
    ∀ v ∈ [(Placeholder.className, className), (.table, table)], v.1.token ≠ p.token := by
  rcases hp with rfl | rfl <;> simp [Placeholder.token, Placeholder.name]

/-- If naming the class and the table makes no new slot, the class is what a single pass makes of its
template. -/
theorem substitute_named
    (hresolved : ¬HasToken (substitute (named template className table)
      [(.schemaUp, ""), (.schemaDown, "")]).toList)
    (hup : slots .schemaUp (named template className table) = slots .schemaUp template)
    (hdown : slots .schemaDown (named template className table) = slots .schemaDown template) :
    substitute (named template className table) [(.schemaUp, up), (.schemaDown, down)] =
      substitute template [(.className, className), (.table, table), (.schemaUp, up),
        (.schemaDown, down)] := by
  rw [named] at hresolved hup hdown ⊢
  rw [slots, slots, toList_substitute] at hup hdown
  rw [toList_substitute, toList_substitute] at hresolved
  apply String.toList_inj.mp
  rw [toList_substitute, toList_substitute, toList_substitute]
  refine resolved_staged_of_count [(.schemaUp, up), (.schemaDown, down)] fun t ht => ?_
  obtain ⟨htoken, hin⟩ := mem_tokens.mp ht
  obtain ⟨v, hv, rfl⟩ := exists_placeholder_of_resolved hresolved htoken hin
  have hslot : v.1 = .schemaUp ∨ v.1 = .schemaDown := by
    rcases List.mem_pair.mp hv with rfl | rfl
    · exact .inl rfl
    · exact .inr rfl
  rw [count_kept (notMem_named hslot)]
  rcases hslot with hslot | hslot <;> rw [hslot] <;> assumption

/-- If both bodies call something, the class is what a single pass makes of its template only if
naming the class and the table makes no new slot. -/
theorem slots_named_of_eq (hup : '(' ∈ up.toList) (hdown : '(' ∈ down.toList)
    (h : substitute (named template className table) [(.schemaUp, up), (.schemaDown, down)] =
      substitute template [(.className, className), (.table, table), (.schemaUp, up),
        (.schemaDown, down)]) :
    slots .schemaUp (named template className table) = slots .schemaUp template ∧
      slots .schemaDown (named template className table) = slots .schemaDown template := by
  have hnone : ∀ p : Placeholder, p.token.count '(' = 0 := by
    intro p
    cases p <;> decide
  -- Each slot that is filled adds the calls of its body to those of the rest of the text.
  have hcalls : ∀ (values : List (Placeholder × String)) (text : List Char),
      (∀ v ∈ values, v.1.token ≠ Placeholder.schemaUp.token) →
      (∀ v ∈ values, v.1.token ≠ Placeholder.schemaDown.token) →
      (resolved (values ++ [(.schemaUp, up), (.schemaDown, down)]) text).count '(' =
        (resolved values text).count '(' +
          (tokens text).count Placeholder.schemaUp.token * up.toList.count '(' +
          (tokens text).count Placeholder.schemaDown.token * down.toList.count '(' := by
    intro values text hlistedUp hlistedDown
    have hboth : ∀ v ∈ values ++ [(.schemaUp, up)], v.1.token ≠ Placeholder.schemaDown.token := by
      intro v hv
      rcases List.mem_append.mp hv with hv | hv
      · exact hlistedDown v hv
      · obtain rfl := List.mem_singleton.mp hv
        simp [Placeholder.token, Placeholder.name]
    have hfirst := count_resolved '(' hlistedUp up text
    have hsecond := count_resolved '(' hboth down text
    rw [hnone, Nat.mul_zero, Nat.add_zero] at hfirst hsecond
    rw [hfirst, List.append_assoc] at hsecond
    exact hsecond
  have hlists := congrArg (fun text => text.toList.count '(') h
  simp only [named, toList_substitute, slots] at hlists ⊢
  have htwo := hcalls [] (resolved [(.className, className), (.table, table)] template.toList)
    (List.forall_mem_nil _) (List.forall_mem_nil _)
  have hone := hcalls [(.className, className), (.table, table)] template.toList
    (notMem_named (.inl rfl)) (notMem_named (.inr rfl))
  rw [resolved_no_values, List.nil_append] at htwo
  have hsublist := kept_sublist [(.className, className), (.table, table)] [] template.toList
  have hleUp := hsublist.count_le Placeholder.schemaUp.token
  have hleDown := hsublist.count_le Placeholder.schemaDown.token
  rw [count_kept (notMem_named (.inl rfl)), List.nil_append] at hleUp
  rw [count_kept (notMem_named (.inr rfl)), List.nil_append] at hleDown
  refine eq_of_calls (List.count_pos_iff.mpr hup) (List.count_pos_iff.mpr hdown) hleUp hleDown ?_
  have hsame := htwo.symm.trans (hlists.trans hone)
  omega

end Class

/-- Filling a template in two steps is one pass over it, with one exception. The bodies of a
migration are what a single pass makes of the wrapper for every action but `create`; for `create`
the body of the change is exactly if naming the table makes no new slot for it. A migration is what
a single pass makes of its template if naming the class and the table makes no new slots, and only
then if both bodies call something. -/
theorem one_pass_of_ok (source : Source) (schema : Schema) (a : Action) :
    (∀ b, bodies source schema a.keyword = .ok b → ∃ wrapper, source.wrapper a = .ok wrapper ∧
      (b.up = substitute wrapper [(.table, schema.name),
          (.schemaUp, statements a schema (upDirection a)), (.schemaDown, "")] ↔
        slots .schemaUp (skeleton wrapper .schemaUp schema.name) = slots .schemaUp wrapper) ∧
      (a ≠ .create →
        b.up = substitute wrapper [(.table, schema.name),
          (.schemaUp, statements a schema (upDirection a)), (.schemaDown, "")] ∧
        b.down = substitute wrapper [(.table, schema.name), (.schemaUp, ""),
          (.schemaDown, statements a schema .drop)])) ∧
    (∀ text, classText source schema a = .ok text → ∃ b template,
      bodies source schema a.keyword = .ok b ∧ source.load migrationName = .ok template ∧
      let base := named template (className a schema.name) schema.name
      let single := substitute template [(.className, className a schema.name),
        (.table, schema.name), (.schemaUp, b.up), (.schemaDown, b.down)]
      (slots .schemaUp base = slots .schemaUp template ∧
        slots .schemaDown base = slots .schemaDown template → text = single) ∧
      ('(' ∈ b.up.toList → '(' ∈ b.down.toList → text = single →
        slots .schemaUp base = slots .schemaUp template ∧
        slots .schemaDown base = slots .schemaDown template)) := by
  constructor
  · intro b hbodies
    obtain ⟨wrapper, hwrapper, hup, hdown⟩ := bodies_eq_ok_iff.mp hbodies
    refine ⟨wrapper, hwrapper, up_eq_substitute_iff hup (exists_count_ne a schema _ _), ?_⟩
    intro ha
    rw [if_neg ha] at hdown
    exact fillHalf_eq_substitute hup hdown
  · intro text htext
    obtain ⟨b, template, hbodies, hload, hresolved, rfl⟩ := classText_eq_ok_iff.mp htext
    exact ⟨b, template, hbodies, hload, fun ⟨hup, hdown⟩ => substitute_named hresolved hup hdown,
      slots_named_of_eq⟩

/-- A table with a plain name is altered in one pass. -/
theorem one_pass_of_ok_users :
    let users : Schema := ⟨"users", [{ name := "id", type := .column "integer" }], false⟩
    let template := "\x7b\x7btable\x7d\x7d:\x7b\x7bschema_up\x7d\x7d\x7b\x7bschema_down\x7d\x7d"
    let source : Source := ⟨fun _ => .ok template⟩
    ∃ b text, bodies source users "remove" = .ok b ∧ classText source users .remove = .ok text ∧
      b.up = substitute template [(.table, "users"), (.schemaUp, statements .remove users .drop),
        (.schemaDown, "")] ∧
      text = substitute template [(.className, className .remove "users"), (.table, "users"),
        (.schemaUp, b.up), (.schemaDown, b.down)] := by
  intro users template source
  have hwrapper : source.wrapper .remove = .ok template :=
    Source.wrapper_eq_ok_iff.mpr ⟨template, rfl, by decide +kernel⟩
  have hup : ¬HasToken (fill (skeleton template .schemaUp "users") .schemaUp "").toList := by
    rw [toList_fill_skeleton]
    decide +kernel
  have hdown : ¬HasToken (fill (skeleton template .schemaDown "users") .schemaDown "").toList := by
    rw [toList_fill_skeleton]
    decide +kernel
  have hclass : ¬HasToken (substitute (named template (className .remove "users") "users")
      [(.schemaUp, ""), (.schemaDown, "")]).toList := by
    rw [named, toList_substitute, toList_substitute]
    decide +kernel
  obtain ⟨b, hbodies⟩ : ∃ b, bodies source users (Action.keyword .remove) = .ok b :=
    ⟨⟨_, _⟩, bodies_eq_ok_iff.mpr ⟨template, hwrapper, fillHalf_eq_ok_iff.mpr ⟨hup, rfl⟩,
      fillHalf_eq_ok_iff.mpr ⟨hdown, rfl⟩⟩⟩
  obtain ⟨text, htext⟩ : ∃ text, classText source users .remove = .ok text :=
    ⟨_, classText_eq_ok_iff.mpr ⟨b, template, hbodies, rfl, hclass, rfl⟩⟩
  refine ⟨b, text, hbodies, htext, ?_, ?_⟩
  · obtain ⟨wrapper, hsame, -, hboth⟩ := (one_pass_of_ok source users .remove).1 b hbodies
    obtain rfl := Except.ok.inj (hwrapper.symm.trans hsame)
    exact (hboth (by decide)).1
  · obtain ⟨b', text', hbodies', hload, hsingle, -⟩ :=
      (one_pass_of_ok source users .remove).2 text htext
    obtain rfl : template = text' := Except.ok.inj hload
    obtain rfl := Except.ok.inj (hbodies.symm.trans hbodies')
    refine hsingle ?_
    simp only [slots, named, toList_substitute]
    decide +kernel

/-- A table that is named like the slot for the statements that create it gets them into its name. -/
theorem not_one_pass : ¬∀ (source : Source) (schema : Schema) (a : Action) (b : Bodies)
    (wrapper : String), source.wrapper a = .ok wrapper →
      bodies source schema a.keyword = .ok b →
      b.up = substitute wrapper [(.table, schema.name),
        (.schemaUp, statements a schema (upDirection a)), (.schemaDown, "")] := by
  intro h
  let schema : Schema :=
    ⟨"\x7b\x7bschema_up\x7d\x7d", [{ name := "id", type := .column "integer" }], false⟩
  let wrapper := wrapperLayout .create "\x7b\x7btable\x7d\x7d" "\x7b\x7bschema_up\x7d\x7d"
    "\x7b\x7bschema_down\x7d\x7d"
  have hresolved :
      ¬HasToken (fill (skeleton wrapper .schemaUp schema.name) .schemaUp "").toList := by
    rw [toList_fill_skeleton]
    decide +kernel
  have hup : fillHalf (wrapperName .create) wrapper (statements .create schema .add) .schemaUp
      schema.name = .ok _ := fillHalf_eq_ok_iff.mpr ⟨hresolved, rfl⟩
  have hone := h .builtin schema .create ⟨_, _⟩ wrapper (wrapper_builtin .create)
    (bodies_eq_ok_iff.mpr ⟨wrapper, wrapper_builtin .create, hup, rfl⟩)
  have hslots := (up_eq_substitute_iff hup (exists_count_ne .create schema .add .schemaUp)).mp hone
  revert hslots
  simp only [slots, skeleton, toList_substitute]
  decide +kernel

end SchemaForge.Migration
