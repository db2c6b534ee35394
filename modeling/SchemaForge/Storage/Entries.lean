/-!
# Entries by location

What a disk holds, as a list of files and directories by location. A list makes up a tree with the
directory that relative paths start from if everything in it lies in a directory (`IsTree`). An
entry is put into a tree where there is room for it (`HasRoom`): in a directory, and in the place of
none, so that the tree stays one (`IsTree.putEntry`).
-/

namespace SchemaForge

/-- The names that lead from the root to a file or directory. -/
abbrev Location := List String

/-- What a disk has at a location. -/
inductive Entry where
  /-- A regular file with its bytes. -/
  | file (content : ByteArray)
  /-- A directory. -/
  | directory

/-- Two entries are equal when both are directories or both are files with the same bytes. -/
instance : DecidableEq Entry := fun a b =>
  match a, b with
  | .directory, .directory => .isTrue rfl
  | .file a, .file b => decidable_of_iff (a.data = b.data)
      ⟨fun h => congrArg Entry.file (ByteArray.ext h), fun h => by cases h; rfl⟩
  | .file _, .directory => .isFalse nofun
  | .directory, .file _ => .isFalse nofun

namespace Disk

variable {entries : List (Location × Entry)} {workDir place q : Location} {entry : Entry}

/-- What a list has for a location, of which the first entry counts. The root is a directory and
needs no entry. -/
def entryAt (entries : List (Location × Entry)) (place : Location) : Option Entry :=
  if place = [] then some .directory else entries.lookup place

/-- Everything lies in a directory, and relative paths start in one. -/
def IsTree (entries : List (Location × Entry)) (workDir : Location) : Prop :=
  (∀ e ∈ entries, entryAt entries e.1.dropLast = some .directory) ∧
    entryAt entries workDir = some .directory

instance : Decidable (IsTree entries workDir) := by
  unfold IsTree; infer_instance

/-! ## Putting an entry -/

/-- Something can be put at a location: it lies in a directory, and there is none in its place. -/
def HasRoom (entries : List (Location × Entry)) (place : Location) : Prop :=
  entryAt entries place ≠ some .directory ∧ entryAt entries place.dropLast = some .directory

instance : Decidable (HasRoom entries place) := by
  unfold HasRoom; infer_instance

/-- A location where something can be put is not the root. -/
theorem HasRoom.ne_nil (h : HasRoom entries place) : place ≠ [] := by
  rintro rfl
  exact h.1 rfl

/-- The list with an entry put at a location, in the place of what was there. -/
def putEntry (entries : List (Location × Entry)) (place : Location) (entry : Entry) :
    List (Location × Entry) :=
  if (entries.lookup place).isSome then
    entries.map fun e => if e.1 = place then (place, entry) else e
  else
    entries ++ [(place, entry)]

/-- What the list has for a location after an entry is put at one. -/
theorem entryAt_putEntry (entries : List (Location × Entry)) (hplace : place ≠ []) (entry : Entry)
    (q : Location) :
    entryAt (putEntry entries place entry) q =
      if q = place then some entry else entryAt entries q := by
  have hreplace : ∀ entries : List (Location × Entry),
      (entries.map fun e => if e.1 = place then (place, entry) else e).lookup q =
        if q = place then (entries.lookup q).map fun _ => entry else entries.lookup q := by
    intro entries
    induction entries with
    | nil => simp
    | cons e rest ih =>
      obtain ⟨key, old⟩ := e
      rw [List.map_cons, List.lookup_cons]
      by_cases hkey : key = place
      · by_cases hq : q = place
        · simp [hkey, hq]
        · have hne : (q == place) = false := beq_false_of_ne hq
          simp [hkey, hq, hne, List.lookup_cons, ih]
      · rw [if_neg hkey, List.lookup_cons, ih]
        by_cases hq : q = place
        · have hne : (place == key) = false := beq_false_of_ne (Ne.symm hkey)
          simp [hq, hne]
        · simp [hq]
  by_cases hq : q = []
  · subst hq
    simp [entryAt, Ne.symm hplace]
  · by_cases hsome : (entries.lookup place).isSome
    · rw [putEntry, if_pos hsome, entryAt, entryAt, if_neg hq, if_neg hq, hreplace]
      by_cases hqp : q = place
      · obtain ⟨old, hold⟩ := Option.isSome_iff_exists.mp hsome
        simp [hqp, hold]
      · simp [hqp]
    · rw [putEntry, if_neg hsome, entryAt, entryAt, if_neg hq, if_neg hq, List.lookup_append]
      by_cases hqp : q = place
      · simp [hqp, Option.not_isSome_iff_eq_none.mp hsome]
      · have hne : (q == place) = false := beq_false_of_ne hqp
        simp [hqp, List.lookup_cons, hne]

/-- The list has entries for no other locations after one is put. -/
theorem mem_putEntry {e : Location × Entry} (h : e ∈ putEntry entries place entry) :
    e.1 = place ∨ ∃ old ∈ entries, old.1 = e.1 := by
  rw [putEntry] at h
  split at h
  · obtain ⟨old, hold, rfl⟩ := List.mem_map.mp h
    by_cases hkey : old.1 = place
    · exact .inl (by rw [if_pos hkey])
    · exact .inr ⟨old, hold, by rw [if_neg hkey]⟩
  · rcases List.mem_append.mp h with h | h
    · exact .inr ⟨e, h, rfl⟩
    · exact .inl (by rw [List.mem_singleton.mp h])

/-- Putting an entry where there is room keeps the tree: every directory stays. -/
theorem IsTree.putEntry (h : IsTree entries workDir) (hroom : HasRoom entries place)
    (entry : Entry) : IsTree (putEntry entries place entry) workDir := by
  have hstays : ∀ q, entryAt entries q = some .directory →
      entryAt (Disk.putEntry entries place entry) q = some .directory := by
    intro q hq
    rw [entryAt_putEntry entries hroom.ne_nil, if_neg, hq]
    rintro rfl
    exact hroom.1 hq
  refine ⟨fun e he => hstays _ ?_, hstays _ h.2⟩
  rcases mem_putEntry he with hplace | ⟨old, hold, hkey⟩
  · rw [hplace]
    exact hroom.2
  · rw [← hkey]
    exact h.1 old hold

/-! ## Directories alone -/

/-- The directories below the root down to a location. -/
def directoriesTo (place : Location) : List (Location × Entry) :=
  (List.range place.length).map fun n => (place.take (n + 1), .directory)

/-- A list with directories alone has one for each of its locations. -/
theorem lookup_of_directories (hall : ∀ e ∈ entries, e.2 = .directory)
    (hplace : place ∈ entries.map (·.1)) : entries.lookup place = some .directory := by
  induction entries with
  | nil => cases hplace
  | cons e rest ih =>
    obtain ⟨hfirst, hrest⟩ := List.forall_mem_cons.mp hall
    rw [List.lookup_cons]
    split
    next => rw [hfirst]
    next hne =>
      rw [List.map_cons, List.mem_cons] at hplace
      exact ih hrest (hplace.resolve_left fun heq => by simp [heq] at hne)

/-- Every directory on the way down to a location is there. -/
theorem entryAt_directoriesTo {n : Nat} (hn : n ≤ place.length) :
    entryAt (directoriesTo place) (place.take n) = some .directory := by
  rw [entryAt]
  split
  next => rfl
  next hne =>
    refine lookup_of_directories (by simp [directoriesTo]) ?_
    obtain ⟨k, rfl⟩ : ∃ k, n = k + 1 := by
      refine Nat.exists_eq_succ_of_ne_zero ?_
      rintro rfl
      exact hne List.take_zero
    rw [directoriesTo, List.map_map]
    exact List.mem_map_of_mem (f := fun n => place.take (n + 1)) (List.mem_range.mpr hn)

/-- The directories down to a location make up a tree. -/
theorem isTree_directoriesTo (place : Location) : IsTree (directoriesTo place) place := by
  refine ⟨fun e he => ?_, ?_⟩
  · obtain ⟨n, hn, rfl⟩ := List.mem_map.mp he
    have hlt : n < place.length := List.mem_range.mp hn
    have habove : (place.take (n + 1)).dropLast = place.take n := by
      rw [List.dropLast_eq_take, List.take_take, List.length_take]
      congr 1
      omega
    rw [habove]
    exact entryAt_directoriesTo (Nat.le_of_lt hlt)
  · have h : entryAt (directoriesTo place) (place.take place.length) = some .directory :=
      entryAt_directoriesTo (Nat.le_refl _)
    rwa [List.take_length] at h

end Disk

end SchemaForge
