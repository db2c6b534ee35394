import SchemaForge.Proofs.Storage.Change

/-!
# What paths led to before

Everything on a disk lies in a directory, so whatever is at a location can be reached by every path
that leads there and never goes up: what directories that are made later bring in its way were there
before (`AddsDirectories.locate_before`). So making directories lets such a path read no file that
it could not read (`AddsDirectories.read_before`).
-/

namespace SchemaForge.Disk

variable {d d' : Disk}

/-- Above a location with something there is something everywhere. -/
theorem isSome_above {above place : Location} (habove : above <+: place)
    (hplace : (d.find? place).isSome) : (d.find? above).isSome := by
  obtain ⟨rest, rfl⟩ := habove
  induction rest using List.reverseRecOn with
  | nil => simpa using hplace
  | append_singleton rest name ih =>
    refine ih ?_
    rw [← List.append_assoc] at hplace
    have hdir := find?_dropLast hplace
    rw [List.dropLast_concat] at hdir
    rw [hdir]
    rfl

/-- Names that never go up lead below where they start. -/
theorem prefix_foldl_enter {names : List String} (h : ".." ∉ names) (place : Location) :
    place <+: names.foldl Location.enter place := by
  induction names generalizing place with
  | nil => exact List.prefix_rfl
  | cons name rest ih =>
    obtain ⟨hname, hrest⟩ := not_or.mp (mt List.mem_cons.mpr h)
    refine List.IsPrefix.trans ?_ (ih hrest (place.enter name))
    rw [Location.enter, if_neg (Ne.symm hname)]
    split
    · exact List.prefix_rfl
    · exact List.prefix_append _ _

/-- Names that never go up lead to what was there before directories were added, if they do now. -/
theorem AddsDirectories.follow_before (h : d.AddsDirectories d') {names : List String}
    (hup : ".." ∉ names) {start place : Location} {entry : Entry}
    (hfollow : d'.follow (.present start .directory) names = .ok (.present place entry))
    (hplace : (d.find? place).isSome) :
    d.follow (.present start .directory) names = .ok (.present place entry) := by
  induction names generalizing start with
  | nil => exact hfollow
  | cons name rest ih =>
    obtain ⟨hname, hrest⟩ := not_or.mp (mt List.mem_cons.mpr hup)
    rw [Disk.follow] at hfollow ⊢
    split at hfollow
    next hskip =>
      rw [if_pos hskip]
      exact ih hrest hfollow
    next hskip =>
      rw [if_neg hskip, if_neg (Ne.symm hname)]
      rw [if_neg (Ne.symm hname)] at hfollow
      split at hfollow
      next => cases hfollow
      next hlong =>
        rw [if_neg hlong]
        split at hfollow
        next found hfound =>
          -- The names lead below this one, so there was something, and it is the same.
          have hbelow : start ++ [name] <+: place := by
            have hend := follow_place hfollow
            rw [show place = _ from hend]
            exact prefix_foldl_enter hrest _
          obtain ⟨old, hold⟩ := Option.isSome_iff_exists.mp (isSome_above hbelow hplace)
          obtain rfl : found = old := by
            rw [h.find? _ _ hold] at hfound
            exact (Option.some.inj hfound).symm
          rw [hold]
          dsimp only
          cases found with
          | directory => exact ih hrest hfollow
          | file content => cases rest <;> exact hfollow
        next => cases rest <;> cases hfollow

/-- A path that never goes up leads to what was at its location before directories were added, if it
does now. -/
theorem AddsDirectories.locate_before (h : d.AddsDirectories d') {p : Path}
    (hup : ".." ∉ p.names) {entry : Entry}
    (hlocate : d'.locate p = .ok (.present (d.placeOf p) entry))
    (hplace : (d.find? (d.placeOf p)).isSome) :
    d.locate p = .ok (.present (d.placeOf p) entry) := by
  obtain ⟨hcheck, hfollow⟩ := locateNames_ok hlocate
  rw [h.keeps.origin] at hfollow
  rw [Disk.locate, locateNames_eq_follow hcheck]
  exact h.follow_before hup hfollow hplace

/-- Something existed at a path that never goes up before directories were added, if something does
now and its location was not free. -/
theorem AddsDirectories.hasEntry_before (h : d.AddsDirectories d') {p : Path}
    (hup : ".." ∉ p.names) (hentry : d'.hasEntry p = true)
    (hplace : (d.find? (d.placeOf p)).isSome) : d.hasEntry p = true := by
  obtain ⟨entry, hlocate⟩ := hasEntry_iff.mp hentry
  rw [h.keeps.placeOf] at hlocate
  exact hasEntry_iff.mpr ⟨entry, h.locate_before hup hlocate hplace⟩

/-- A text that a path that never goes up reads was read before directories were added. -/
theorem AddsDirectories.read_before (h : d.AddsDirectories d') {p : Path}
    (hup : ".." ∉ p.names) {text : String} (hread : d'.read p = .ok text) :
    d.read p = .ok text := by
  have hlocate := locate_of_read hread
  have hfile := h.file _ _ (find?_of_read hread)
  rw [h.keeps.placeOf] at hlocate hfile
  exact read_of_locate (h.locate_before hup hlocate (by simp [hfile]))

end SchemaForge.Disk
