import SchemaForge.Proofs.Migration.Layout
import SchemaForge.Proofs.Seeder.Layout
import SchemaForge.Proofs.Template.Leftover

/-!
# Templates that compile

When a migration or a seeder is generated, every check on the way has passed: `bodies_eq_ok_iff`,
`classText_eq_ok_iff` and `Seeder.classText_eq_ok_iff` say which, for templates of any source. A
check looks at a template only after names and empty texts have gone in, but a token that it does
not know survives all of them. So the tokens of a template that compiles are those of its own
placeholders, letter for letter (`onlyTokensOf_of_compiles`).
-/

namespace SchemaForge

open Template

/-- A program that goes on with a result has one only if both parts have. -/
theorem bind_eq_ok_iff {α β : Type} {x : Except Error α} {f : α → Except Error β} {y : β} :
    (x >>= f) = .ok y ↔ ∃ value, x = .ok value ∧ f value = .ok y := by
  cases x with
  | error e => exact ⟨nofun, nofun⟩
  | ok value => exact ⟨fun h => ⟨value, rfl, h⟩, fun ⟨_, hvalue, h⟩ => Except.ok.inj hvalue ▸ h⟩

/-! ## Tokens of templates -/

namespace Template

variable {t : List Char}

/-- Every token of a text is that of one of the placeholders. -/
def OnlyTokensOf (placeholders : List Placeholder) (text : String) : Prop :=
  ∀ t, IsToken t → t <:+: text.toList → ∃ p ∈ placeholders, p.token = t

/-- When two passes leave no token over, every token of the text is that of a placeholder that one
of them has a value for. -/
theorem onlyTokensOf_of_resolved {values later : List (Placeholder × String)} {text : String}
    (h : ¬HasToken (resolved later (resolved values text.toList))) :
    OnlyTokensOf ((values ++ later).map Prod.fst) text := by
  intro t ht hin
  by_cases hlisted : ∃ v ∈ values, v.1.token = t
  · obtain ⟨v, hv, htoken⟩ := hlisted
    exact ⟨v.1, List.mem_map_of_mem (List.mem_append_left later hv), htoken⟩
  · push Not at hlisted
    have hkept := infix_resolved (resolveToken_of_notMem hlisted) ht hin
    obtain ⟨v, hv, htoken⟩ := exists_placeholder_of_resolved h ht hkept
    exact ⟨v.1, List.mem_map_of_mem (List.mem_append_right values hv), htoken⟩

/-- A text is what is left without the line breaks at its end, and these. -/
theorem toList_eq_trimBreaks_append (text : String) :
    ∃ breaks, text.toList = (trimBreaks text).toList ++ breaks ∧ '}' ∉ breaks := by
  refine ⟨(text.toList.reverse.takeWhile fun c => c == '\n' || c == '\r').reverse, ?_, ?_⟩
  · rw [trimBreaks, String.toList_ofList, ← List.reverse_append, List.takeWhile_append_dropWhile,
      List.reverse_reverse]
  · rw [List.mem_reverse]
    intro hbrace
    exact absurd (List.mem_takeWhile_imp hbrace) (by decide)

/-- The line breaks at the end of a text are in none of its tokens. -/
theorem infix_trimBreaks (ht : IsToken t) {text : String} (h : t <:+: text.toList) :
    t <:+: (trimBreaks text).toList := by
  obtain ⟨breaks, heq, hbrace⟩ := toList_eq_trimBreaks_append text
  obtain ⟨front, back, htext⟩ := h
  rw [heq] at htext
  -- The token ends in the trimmed text, or it goes on into the line breaks.
  rcases List.prefix_or_prefix_of_prefix (List.prefix_append (front ++ t) back)
    (htext ▸ List.prefix_append _ breaks) with hwithin | ⟨beyond, hbeyond⟩
  · exact (List.suffix_append front t).isInfix.trans hwithin.isInfix
  · cases hlast : beyond.getLast? with
    | none =>
      rw [List.getLast?_eq_none_iff] at hlast
      rw [hlast, List.append_nil] at hbeyond
      rw [hbeyond]
      exact (List.suffix_append front t).isInfix
    | some c =>
      -- The token would end inside the line breaks, with a brace.
      rw [← hbeyond, List.append_assoc] at htext
      have hin : c ∈ breaks := by
        rw [← List.append_cancel_left htext]
        exact List.mem_append_left back (List.mem_of_getLast? hlast)
      have hclose : c = '}' := by
        obtain ⟨d, body, -, rfl⟩ := ht.eq_braces
        have hends := congrArg List.getLast? hbeyond
        rw [List.getLast?_append, hlast, List.getLast?_append, List.getLast?_append] at hends
        exact Option.some.inj hends
      exact absurd (hclose ▸ hin) hbrace

/-- The tokens of a text without the line breaks at its end are those of the text. -/
theorem OnlyTokensOf.of_trimBreaks {placeholders : List Placeholder} {text : String}
    (h : OnlyTokensOf placeholders (trimBreaks text)) : OnlyTokensOf placeholders text :=
  fun t ht hin => h t ht (infix_trimBreaks ht hin)

/-- An action has a wrapper if its template is there. -/
theorem Source.wrapper_eq_ok_iff {source : Source} {a : Action} {wrapper : String} :
    source.wrapper a = .ok wrapper ↔
      ∃ text, source.load (wrapperName a) = .ok text ∧ trimBreaks text = wrapper := by
  rw [Source.wrapper]
  cases source.load (wrapperName a) with
  | error e => exact ⟨nofun, nofun⟩
  | ok text => simp [Except.map]

end Template

/-! ## Migrations -/

namespace Migration

variable {source : Source} {schema : Schema}

/-- A half of a migration is generated when the wrapper without statements has no token left. -/
theorem fillHalf_eq_ok_iff {template wrapper text table body : String} {slot : Placeholder} :
    fillHalf template wrapper text slot table = .ok body ↔
      ¬HasToken (fill (skeleton wrapper slot table) slot "").toList ∧
        fill (skeleton wrapper slot table) slot text = body := by
  simp only [fillHalf, bind_eq_ok_iff, ensureResolved_eq_ok_iff, pure, Except.pure,
    Except.ok.injEq, exists_const]

/-- A keyword with bodies is that of an action. -/
theorem exists_keyword_of_bodies {keyword : String} {b : Bodies}
    (h : bodies source schema keyword = .ok b) : ∃ a : Action, a.keyword = keyword := by
  simp only [bodies, Resolution.resolve, Resolution.resolveUp, bind_eq_ok_iff] at h
  obtain ⟨r, ⟨-, ⟨a, haction, -⟩, -⟩, -⟩ := h
  unfold Resolution.actionFor at haction
  split at haction
  next a' hfind =>
    have hkeyword := List.find?_some hfind
    exact ⟨a', eq_of_beq hkeyword⟩
  next => cases haction

/-- The bodies of a migration are generated when its wrapper is there and takes the statements of
each half that has any. -/
theorem bodies_eq_ok_iff {a : Action} {b : Bodies} :
    bodies source schema a.keyword = .ok b ↔ ∃ wrapper, source.wrapper a = .ok wrapper ∧
      fillHalf (wrapperName a) wrapper (statements a schema (upDirection a)) .schemaUp
        schema.name = .ok b.up ∧
      if a = .create then Statement.dropTable schema.name = b.down
      else fillHalf (wrapperName a) wrapper (statements a schema .drop) .schemaDown
        schema.name = .ok b.down := by
  obtain ⟨up, down⟩ := b
  simp only [bodies, resolve_keyword, bind_eq_ok_iff, Except.ok.injEq, exists_eq_left']
  apply exists_congr
  intro wrapper
  -- Only what is created is dropped as a whole.
  by_cases ha : a = .create
  · simp [ha, bind_eq_ok_iff, pure, Except.pure, statements]
  · simp [ha, bind_eq_ok_iff, pure, Except.pure, statements]

/-- A migration is generated when its bodies are, and the template of migrations without bodies has
no token left. -/
theorem classText_eq_ok_iff {a : Action} {text : String} :
    classText source schema a = .ok text ↔ ∃ b template,
      bodies source schema a.keyword = .ok b ∧ source.load migrationName = .ok template ∧
        let base := substitute template
          [(.className, className a schema.name), (.table, schema.name)]
        ¬HasToken (substitute base [(.schemaUp, ""), (.schemaDown, "")]).toList ∧
          substitute base [(.schemaUp, b.up), (.schemaDown, b.down)] = text := by
  simp only [classText, bind_eq_ok_iff, ensureResolved_eq_ok_iff, pure, Except.pure,
    Except.ok.injEq, exists_const, exists_and_left]

/-- The placeholders of a wrapper. -/
def wrapperPlaceholders : List Placeholder := [.table, .schemaUp, .schemaDown]

/-- The placeholders of the template of migrations. -/
def classPlaceholders : List Placeholder := [.className, .table, .schemaUp, .schemaDown]

/-- A wrapper that takes the statements of a half has its own tokens only. -/
theorem onlyTokensOf_of_fillHalf {template wrapper text table body : String}
    (h : fillHalf template wrapper text .schemaUp table = .ok body) :
    OnlyTokensOf wrapperPlaceholders wrapper := by
  obtain ⟨hresolved, -⟩ := fillHalf_eq_ok_iff.mp h
  rw [toList_fill, skeleton, toList_substitute] at hresolved
  intro t ht hin
  obtain ⟨p, hp, htoken⟩ := onlyTokensOf_of_resolved hresolved t ht hin
  refine ⟨p, ?_, htoken⟩
  have hall : ∀ p ∈ [Placeholder.table, .schemaDown, .schemaUp], p ∈ wrapperPlaceholders := by decide
  exact hall p hp

end Migration

/-! ## Seeders -/

namespace Seeder

/-- A seeder is generated when the template of seeders without a body has no token left. -/
theorem classText_eq_ok_iff {source : Source} {className content text : String} :
    classText source className content = .ok text ↔ ∃ template,
      source.load seederName = .ok template ∧
        let base := substitute template [(.className, className)]
        ¬HasToken (substitute base [(.content, "")]).toList ∧
          substitute base [(.content, if Text.IsBlank content then emptyBody else content)] =
            text := by
  simp only [classText, bind_eq_ok_iff, ensureResolved_eq_ok_iff, pure, Except.pure,
    Except.ok.injEq, exists_const]

/-- The placeholders of the template of seeders. -/
def classPlaceholders : List Placeholder := [.className, .content]

end Seeder

/-- A template that compiles has its own tokens only. If the bodies of a migration are generated,
the wrapper that was loaded for them has no tokens but those of the table and of the two bodies; if
a migration is, its template has none but those and the one of the class; and if a seeder is, its
template has none but those of the class and of the content. -/
theorem Template.onlyTokensOf_of_compiles (source : Source) :
    (∀ schema keyword b, Migration.bodies source schema keyword = .ok b →
      ∃ (a : Action) (text : String), a.keyword = keyword ∧
        source.load (wrapperName a) = .ok text ∧
          OnlyTokensOf Migration.wrapperPlaceholders text) ∧
    (∀ schema a text, Migration.classText source schema a = .ok text →
      ∃ template, source.load migrationName = .ok template ∧
        OnlyTokensOf Migration.classPlaceholders template) ∧
    (∀ className content text, Seeder.classText source className content = .ok text →
      ∃ template, source.load seederName = .ok template ∧
        OnlyTokensOf Seeder.classPlaceholders template) := by
  refine ⟨fun schema keyword b h => ?_, fun schema a text h => ?_,
    fun className content text h => ?_⟩
  · obtain ⟨a, rfl⟩ := Migration.exists_keyword_of_bodies h
    obtain ⟨wrapper, hwrapper, hup, -⟩ := Migration.bodies_eq_ok_iff.mp h
    obtain ⟨text, hload, rfl⟩ := Source.wrapper_eq_ok_iff.mp hwrapper
    exact ⟨a, text, rfl, hload, (Migration.onlyTokensOf_of_fillHalf hup).of_trimBreaks⟩
  · obtain ⟨b, template, -, hload, hresolved, -⟩ := Migration.classText_eq_ok_iff.mp h
    rw [toList_substitute, toList_substitute] at hresolved
    exact ⟨template, hload, onlyTokensOf_of_resolved hresolved⟩
  · obtain ⟨template, hload, hresolved, -⟩ := Seeder.classText_eq_ok_iff.mp h
    rw [toList_substitute, toList_substitute] at hresolved
    exact ⟨template, hload, onlyTokensOf_of_resolved hresolved⟩

/-- The built-in templates compile, so they have their own tokens only. -/
theorem Template.onlyTokensOf_of_compiles_builtin :
    let users : Schema := ⟨"users", [], false⟩
    (∃ b, Migration.bodies .builtin users "update" = .ok b) ∧
      (∃ text, Migration.classText .builtin users .update = .ok text) ∧
      (∃ text, Seeder.classText .builtin "UserTableSeeder" "" = .ok text) ∧
      OnlyTokensOf Migration.wrapperPlaceholders (tableWrapperText "table") ∧
      OnlyTokensOf Migration.classPlaceholders migrationText ∧
      OnlyTokensOf Seeder.classPlaceholders seederText := by
  intro users
  have hname : ¬HasToken users.name.toList := by decide +kernel
  have hplain : ∀ c ∈ "UserTableSeeder".toList, Text.IsPlain c := Text.plain_of_all (by decide)
  have hbodies := Migration.bodies_builtin .update hname
  have hclass := Migration.classText_eq_layout .update hname
  have hseeder := Seeder.classText_eq_layout hplain ""
  obtain ⟨hof_bodies, hof_class, hof_seeder⟩ := onlyTokensOf_of_compiles .builtin
  refine ⟨⟨_, hbodies⟩, ⟨_, hclass⟩, ⟨_, hseeder⟩, ?_, ?_, ?_⟩
  · obtain ⟨a, text, hkeyword, hload, hwrapper⟩ := hof_bodies _ _ _ hbodies
    obtain rfl : a = .update := by
      revert hkeyword
      cases a <;> decide
    cases hload
    exact hwrapper
  · obtain ⟨template, hload, htemplate⟩ := hof_class _ _ _ hclass
    cases hload
    exact htemplate
  · obtain ⟨template, hload, htemplate⟩ := hof_seeder _ _ _ hseeder
    cases hload
    exact htemplate

/-- A token with a space in it is no placeholder, however it is spelled. -/
example :
    Migration.bodies ⟨fun _ => .ok "drop \x7b\x7b table\x7d\x7d"⟩ ⟨"users", [], false⟩ "update" =
      .error (.unresolvedPlaceholder "schema-update" ["\x7b\x7b table\x7d\x7d"]) := by
  rfl

end SchemaForge
