import SchemaForge.Proofs.Migration.Name

/-!
# Which migrations share a file name

A migration's file is recognized by its suffix, in which nothing divides the action's keyword from
the table's name but an underscore. `isFor_fileName` says what that costs: a file is recognized for
another action or table exactly if one of the two migrations creates a table and the other the
functions or triggers of a table, and the created table is named for both, as the table
`function_users` is for the functions of `users` (`IsNamedFor`). For all other pairs recognition is
exact.
-/

namespace SchemaForge.Migration

variable {a b : Action} {table other : String}

/-- The keyword of an action with the underscore that follows it in the name of a file. -/
def lead (a : Action) : List Char := a.keyword.toList ++ ['_']

/-- The suffix of a migration is the lead of its action, its table and the extension. -/
theorem toList_suffix (a : Action) (table : String) :
    (suffix a table).toList = lead a ++ (table.toList ++ ('.' :: codeExtension.toList)) := by
  simp [suffix, lead]

/-- The lead of an action starts with that of another only if the other creates tables, and then it
goes on with the action's noun. -/
theorem lead_of_prefix (h : lead a <+: lead b) :
    a = b ∨ a = .create ∧ ∃ noun, b.noun? = some noun ∧ lead b = lead a ++ (noun.toList ++ ['_']) := by
  -- Only two of the twenty pairs of different actions have leads that start alike.
  have htable : ∀ a b, lead a <+: lead b → a = b ∨ a = .create ∧
      (b = .createFunction ∨ b = .createTrigger) := by
    intro a b
    cases a <;> cases b <;> decide
  rcases htable a b h with rfl | ⟨rfl, rfl | rfl⟩
  · exact .inl rfl
  · exact .inr ⟨rfl, "function", by decide, by decide⟩
  · exact .inr ⟨rfl, "trigger", by decide, by decide⟩

/-- The table of a migration that creates a table is named for the noun of another action and its
table. -/
def IsNamedFor (a : Action) (table : String) (b : Action) (other : String) : Prop :=
  a = .create ∧ ∃ noun, b.noun? = some noun ∧ table = noun ++ "_" ++ other

/-- A table is named for another action and table if the suffixes are equal and the lead of the
other action is the longer one. -/
theorem isNamedFor_of_suffix (hstarts : lead a <+: lead b) (h : suffix a table = suffix b other) :
    (a = b ∧ table = other) ∨ IsNamedFor a table b other := by
  have htext : lead a ++ table.toList = lead b ++ other.toList := by
    have hlist := congrArg String.toList h
    rw [toList_suffix, toList_suffix, ← List.append_assoc, ← List.append_assoc] at hlist
    exact List.append_cancel_right hlist
  rcases lead_of_prefix hstarts with rfl | ⟨rfl, noun, hnoun, hlead⟩
  · have htable : table.toList = other.toList := List.append_cancel_left htext
    exact .inl ⟨rfl, String.toList_inj.mp htable⟩
  · rw [hlead, List.append_assoc] at htext
    have htable : table.toList = noun.toList ++ ['_'] ++ other.toList :=
      List.append_cancel_left htext
    refine .inr ⟨rfl, noun, hnoun, String.toList_inj.mp ?_⟩
    simpa using htable

/-- The suffix of a created table that is named for another action and table is theirs. -/
theorem IsNamedFor.suffix_eq (h : IsNamedFor a table b other) : suffix a table = suffix b other := by
  obtain ⟨rfl, noun, hnoun, rfl⟩ := h
  have hkeyword : b.keyword = Action.create.keyword ++ "_" ++ noun := by
    cases b with
    | create => cases hnoun
    | createFunction => cases hnoun; decide
    | createTrigger => cases hnoun; decide
    | update => cases hnoun
    | remove => cases hnoun
  simp only [suffix, hkeyword, String.append_assoc]

/-- Two migrations have the same suffix if they are the same or if one creates a table that is named
for the other. -/
theorem suffix_eq_iff : suffix a table = suffix b other ↔
    (a = b ∧ table = other) ∨ IsNamedFor a table b other ∨ IsNamedFor b other a table := by
  constructor
  · intro h
    -- Both leads start the common suffix, so one of them starts the other.
    have hleft : lead a <+: (suffix a table).toList := by
      rw [toList_suffix]
      exact List.prefix_append _ _
    have hright : lead b <+: (suffix a table).toList := by
      rw [h, toList_suffix]
      exact List.prefix_append _ _
    rcases List.prefix_or_prefix_of_prefix hleft hright with hstarts | hstarts
    · exact (isNamedFor_of_suffix hstarts h).imp_right .inl
    · rcases isNamedFor_of_suffix hstarts h.symm with ⟨rfl, rfl⟩ | hnamed
      · exact .inl ⟨rfl, rfl⟩
      · exact .inr (.inr hnamed)
  · rintro (⟨rfl, rfl⟩ | h | h)
    · rfl
    · exact h.suffix_eq
    · exact h.suffix_eq.symm

/-- The file of a migration is recognized for its own action and table and, if one of the two
migrations creates a table that is named for the other, for that one's; it is recognized for no
others. -/
theorem isFor_fileName {m : Moment} (hyear : m.HasPlainYear) (a b : Action)
    (table other : String) :
    isFor (fileName m a table) b other = true ↔
      (a = b ∧ table = other) ∨ IsNamedFor a table b other ∨ IsNamedFor b other a table := by
  rw [isFor, stripStamp?_fileName hyear, beq_iff_eq, Option.some.injEq]
  exact suffix_eq_iff

/-- The file that creates the table `function_users` is recognized for the functions of `users`. -/
theorem isFor_fileName_functions :
    let m : Moment := ⟨2024, 3, 7, 9, 5, 42, by decide⟩
    m.HasPlainYear ∧ (isFor (fileName m .create "function_users") .createFunction "users" = true ↔
      (Action.create = .createFunction ∧ "function_users" = "users") ∨
        IsNamedFor .create "function_users" .createFunction "users" ∨
        IsNamedFor .createFunction "users" .create "function_users") := by
  intro m
  have hyear : m.HasPlainYear := by decide
  exact ⟨hyear, isFor_fileName hyear .create .createFunction "function_users" "users"⟩

/-- Recognition is not exact for all pairs of an action and a table. -/
theorem not_isFor_fileName_exact :
    ¬∀ (m : Moment), m.HasPlainYear → ∀ (a b : Action) (table other : String),
      isFor (fileName m a table) b other = true ↔ a = b ∧ table = other := by
  intro h
  have hfile : isFor (fileName ⟨2024, 3, 7, 9, 5, 42, by decide⟩ .create "function_users")
      .createFunction "users" = true := by decide +kernel
  have hexact := (h ⟨2024, 3, 7, 9, 5, 42, by decide⟩ (by decide) .create .createFunction
    "function_users" "users").mp hfile
  cases hexact.1

end SchemaForge.Migration
