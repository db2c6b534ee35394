import Mathlib.Data.List.TakeWhile
import SchemaForge.Proofs.Storage.Place

/-!
# What changes on a disk

Writing changes one location, where a file was or nothing (`write_ok`, `find?_write`), and what is
written is read back (`read_write`). Making directories keeps everything that is there and adds no
file (`AddsDirectories`), also when it fails half-way, and a directory that is made without a failure
is there afterwards (`hasDirectory_makeDirs`).
-/

namespace SchemaForge.Disk

variable {d d' d'' : Disk}

/-! ## Putting an entry -/

/-- What is at a location after an entry is put at one. -/
theorem find?_put {place : Location} (h : HasRoom d.entries place) (entry : Entry) (q : Location) :
    (d.put place entry).find? q = if q = place then some entry else d.find? q := by
  rw [put, dif_pos h]
  exact entryAt_putEntry d.entries h.ne_nil entry q

/-- Putting an entry leaves the working directory. -/
theorem workDir_put (d : Disk) (place : Location) (entry : Entry) :
    (d.put place entry).workDir = d.workDir := by
  rw [put]
  split <;> rfl

/-- There is room at a free location that a path leads to. -/
theorem hasRoom_of_vacant {p : Path} {names : List String} {place : Location}
    (h : d.locateNames p names = .ok (.vacant place)) : HasRoom d.entries place := by
  obtain ⟨hfree, habove⟩ : d.find? place = none ∧ d.find? place.dropLast = some .directory :=
    locateNames_bears h
  have hnone : entryAt d.entries place = none := hfree
  exact ⟨by rw [hnone]; exact nofun, habove⟩

/-- There is room at the place of a file. -/
theorem hasRoom_of_file {place : Location} {content : ByteArray}
    (h : d.find? place = some (.file content)) : HasRoom d.entries place := by
  have hfile : entryAt d.entries place = some (.file content) := h
  exact ⟨by rw [hfile]; exact nofun, find?_dropLast (by rw [h]; rfl)⟩

/-! ## Writing -/

/-- A text is written where there is nothing or a file. -/
theorem write_ok {p : Path} {text : String} (h : d.write p text = .ok d') :
    d' = d.put (d.placeOf p) (.file text.toUTF8) ∧
      (d.locate p = .ok (.vacant (d.placeOf p)) ∨
        ∃ content, d.locate p = .ok (.present (d.placeOf p) (.file content))) := by
  unfold write at h
  split at h
  · split at h <;> cases h
  · match hlocate : d.locate p with
    | .error fault => rw [hlocate] at h; cases h
    | .ok (.present place .directory) => rw [hlocate] at h; cases h
    | .ok (.present place (.file content)) =>
      have hplace := locate_place hlocate
      rw [hlocate] at h
      cases h
      rw [← hplace]
      exact ⟨rfl, .inr ⟨content, rfl⟩⟩
    | .ok (.vacant place) =>
      have hplace := locate_place hlocate
      rw [hlocate] at h
      cases h
      rw [← hplace]
      exact ⟨rfl, .inl rfl⟩

/-- There is no directory where a text can be written. -/
theorem find?_ne_directory_of_write {p : Path} {text : String} (h : d.write p text = .ok d') :
    d.find? (d.placeOf p) ≠ some .directory := by
  rcases (write_ok h).2 with hlocate | ⟨content, hlocate⟩
  · exact (hasRoom_of_vacant hlocate).1
  · exact (hasRoom_of_file (locateNames_bears hlocate)).1

/-- What is at a location after a text is written to a path. -/
theorem find?_write {p : Path} {text : String} (h : d.write p text = .ok d') (q : Location) :
    d'.find? q = if q = d.placeOf p then some (.file text.toUTF8) else d.find? q := by
  have hroom : HasRoom d.entries (d.placeOf p) := by
    rcases (write_ok h).2 with hlocate | ⟨content, hlocate⟩
    · exact hasRoom_of_vacant hlocate
    · exact hasRoom_of_file (locateNames_bears hlocate)
  rw [(write_ok h).1, find?_put hroom]

/-- Writing makes a file at most where it writes. -/
theorem isFile_write {p : Path} {text : String} (h : d.write p text = .ok d') (q : Location) :
    d'.isFile q = true ↔ q = d.placeOf p ∨ d.isFile q = true := by
  rw [isFile_iff, isFile_iff, find?_write h]
  by_cases hq : q = d.placeOf p <;> simp [hq]

/-- Writing leaves the working directory. -/
theorem workDir_write {p : Path} {text : String} (h : d.write p text = .ok d') :
    d'.workDir = d.workDir := by
  rw [(write_ok h).1, workDir_put]

/-! ## Directories that stay -/

/-- The directories of one disk are there on another. -/
structure KeepsDirectories (d d' : Disk) : Prop where
  /-- Relative paths start at the same directory. -/
  workDir : d'.workDir = d.workDir
  /-- Every directory stays one. -/
  find? : ∀ place, d.find? place = some .directory → d'.find? place = some .directory

/-- A disk keeps its own directories. -/
theorem KeepsDirectories.refl (d : Disk) : KeepsDirectories d d := ⟨rfl, fun _ h => h⟩

/-- Writing keeps every directory. -/
theorem keepsDirectories_write {p : Path} {text : String} (h : d.write p text = .ok d') :
    KeepsDirectories d d' := by
  refine ⟨workDir_write h, fun place hplace => ?_⟩
  rw [find?_write h, if_neg, hplace]
  rintro rfl
  exact find?_ne_directory_of_write h hplace

/-- Paths lead to the same locations. -/
theorem KeepsDirectories.placeOf (h : KeepsDirectories d d') (p : Path) :
    d'.placeOf p = d.placeOf p :=
  placeOf_congr h.workDir p

/-- Names that lead to a directory still do when directories stay. -/
theorem KeepsDirectories.follow (h : KeepsDirectories d d') {t : Target} {names : List String}
    {place : Location} (hfollow : d.follow t names = .ok (.present place .directory)) :
    d'.follow t names = .ok (.present place .directory) := by
  -- Every location on the way is a directory: a file can only come last.
  fun_induction Disk.follow d t names with
  | case1 t => cases hfollow; rfl
  | case2 => cases hfollow
  | case3 => cases hfollow
  | case4 place name rest hname ih => rw [Disk.follow, if_pos hname, ih hfollow]
  | case5 place rest hname ih => rw [Disk.follow, if_neg hname, if_pos rfl, ih hfollow]
  | case6 => cases hfollow
  | case7 place name rest hname hdots hlong entry hfind ih =>
    cases entry with
    | file content => cases rest <;> cases hfollow
    | directory =>
      rw [Disk.follow, if_neg hname, if_neg hdots, if_neg hlong, h.find? _ hfind]
      exact ih hfollow
  | case8 place name rest hname hdots hlong hfind ih => cases rest <;> cases hfollow

/-- Where a path leads whose last name is at a location. -/
def targetAt (d : Disk) (place : Location) : Target :=
  match d.find? place with
  | some entry => .present place entry
  | none => .vacant place

/-- Names that lead to a free location or to a file lead to what is there later, when directories
stay. -/
theorem KeepsDirectories.follow_end (h : KeepsDirectories d d') {start place : Location}
    {names : List String} {t : Target}
    (hfollow : d.follow (.present start .directory) names = .ok t)
    (hend : t = .vacant place ∨ ∃ content, t = .present place (.file content)) :
    d'.follow (.present start .directory) names = .ok (d'.targetAt place) := by
  -- Only the last name can lead to no directory.
  generalize hs : Target.present start .directory = s at hfollow ⊢
  fun_induction Disk.follow d s names generalizing start with
  | case1 s =>
    cases hfollow
    rcases hend with rfl | ⟨content, rfl⟩ <;> cases hs
  | case2 => cases hfollow
  | case3 => cases hfollow
  | case4 at' name rest hname ih => rw [Disk.follow, if_pos hname, ih rfl hfollow]
  | case5 at' rest hname ih => rw [Disk.follow, if_neg hname, if_pos rfl, ih rfl hfollow]
  | case6 => cases hfollow
  | case7 at' name rest hname hdots hlong old hfind ih =>
    rw [Disk.follow, if_neg hname, if_neg hdots, if_neg hlong]
    cases old with
    | directory =>
      rw [h.find? _ hfind]
      exact ih rfl hfollow
    | file content =>
      cases rest with
      | nil =>
        cases hfollow
        rcases hend with hend | ⟨content, hend⟩ <;> cases hend
        rw [targetAt]
        cases d'.find? (at' ++ [name]) <;> rfl
      | cons next more => cases hfollow
  | case8 at' name rest hname hdots hlong hfind ih =>
    rw [Disk.follow, if_neg hname, if_neg hdots, if_neg hlong]
    cases rest with
    | nil =>
      cases hfollow
      rcases hend with hend | ⟨content, hend⟩ <;> cases hend
      rw [targetAt]
      cases d'.find? (at' ++ [name]) <;> rfl
    | cons next more => cases hfollow

/-- Paths start at the same target. -/
theorem KeepsDirectories.origin (h : KeepsDirectories d d') (p : Path) :
    d'.origin p = d.origin p := by
  rw [Disk.origin, Disk.origin, h.workDir]

/-- A path that leads to a directory still does when directories stay. -/
theorem KeepsDirectories.locate (h : KeepsDirectories d d') {p : Path} {place : Location}
    (hlocate : d.locate p = .ok (.present place .directory)) :
    d'.locate p = .ok (.present place .directory) := by
  obtain ⟨hcheck, hfollow⟩ := locateNames_ok hlocate
  rw [Disk.locate, locateNames_eq_follow hcheck, h.origin, h.follow hfollow]

/-- A directory that is there stays there. -/
theorem KeepsDirectories.hasDirectory (h : KeepsDirectories d d') {p : Path}
    (hthere : d.hasDirectory p = true) : d'.hasDirectory p = true := by
  rw [Disk.hasDirectory] at hthere
  split at hthere
  next hlocate => rw [Disk.hasDirectory, h.locate hlocate]
  next => cases hthere

/-- A path that leads to a free location or to a file leads to what is there later, when directories
stay. -/
theorem KeepsDirectories.locate_targetAt (h : KeepsDirectories d d') {p : Path} {place : Location}
    {t : Target} (hlocate : d.locate p = .ok t)
    (hend : t = .vacant place ∨ ∃ content, t = .present place (.file content)) :
    d'.locate p = .ok (d'.targetAt place) := by
  obtain ⟨hcheck, hfollow⟩ := locateNames_ok hlocate
  rw [Disk.locate, locateNames_eq_follow hcheck, h.origin]
  exact h.follow_end hfollow hend

/-- A path that leads to a free location or to a file leads to an entry that is there later, when
directories stay. -/
theorem KeepsDirectories.locate_end (h : KeepsDirectories d d') {p : Path} {place : Location}
    {t : Target} {entry : Entry} (hlocate : d.locate p = .ok t)
    (hend : t = .vacant place ∨ ∃ content, t = .present place (.file content))
    (hplace : d'.find? place = some entry) : d'.locate p = .ok (.present place entry) := by
  rw [h.locate_targetAt hlocate hend, targetAt, hplace]

/-- What exists at a path exists there when directories stay and its location is not freed. -/
theorem KeepsDirectories.hasEntry (h : KeepsDirectories d d') {p : Path}
    (hstay : (d.find? (d.placeOf p)).isSome → (d'.find? (d.placeOf p)).isSome)
    (hthere : d.hasEntry p = true) : d'.hasEntry p = true := by
  obtain ⟨entry, hlocate⟩ := hasEntry_iff.mp hthere
  rw [hasEntry_iff, h.placeOf]
  cases entry with
  | directory => exact ⟨.directory, h.locate hlocate⟩
  | file content =>
    have hfind : d.find? (d.placeOf p) = some (.file content) := locateNames_bears hlocate
    obtain ⟨entry, hentry⟩ := Option.isSome_iff_exists.mp (hstay (by simp [hfind]))
    exact ⟨entry, h.locate_end hlocate (.inr ⟨content, rfl⟩) hentry⟩

/-- A path in a directory leads to the same target when directories stay and everything of its last
name is as it was. -/
theorem KeepsDirectories.locate_join (h : KeepsDirectories d d') {dir : Path} {name : String}
    (hname : IsEntryName name) (hfind : ∀ place, d'.find? (place ++ [name]) =
      d.find? (place ++ [name])) {t : Target} (hlocate : d.locate (dir.join name) = .ok t) :
    d'.locate (dir.join name) = .ok t := by
  obtain ⟨hcheck, hfollow⟩ := locateNames_ok hlocate
  obtain ⟨front, hnames, -⟩ := dir.names_join hname.noSlash
  rw [hnames] at hfollow
  obtain ⟨place, hplace, ht⟩ := follow_last hname hfollow
  rw [Disk.locate, locateNames_eq_follow hcheck, h.origin, hnames, follow_append, h.follow hplace]
  rw [follow_append, hplace] at hfollow
  simpa only [Except.bind, Disk.follow, hfind] using hfollow

/-- A file in a directory has the same text when directories stay and everything of its name is as
it was. -/
theorem KeepsDirectories.read_join (h : KeepsDirectories d d') {dir : Path} {name text : String}
    (hname : IsEntryName name) (hfind : ∀ place, d'.find? (place ++ [name]) =
      d.find? (place ++ [name])) (hread : d.read (dir.join name) = .ok text) :
    d'.read (dir.join name) = .ok text := by
  rw [Disk.read] at hread ⊢
  cases hlocate : d.locate (dir.join name) with
  | error fault => rw [hlocate] at hread; cases hread
  | ok t => rwa [h.locate_join hname hfind hlocate, ← hlocate]

/-! ## Texts that stay -/

/-- A path whose text can be read leads to the file with the text. -/
theorem locate_of_read {p : Path} {text : String} (h : d.read p = .ok text) :
    d.locate p = .ok (.present (d.placeOf p) (.file text.toUTF8)) := by
  have hfind := find?_of_read h
  rw [read] at h
  split at h
  next => cases h
  next => cases h
  next => cases h
  next place content hlocate =>
    have hplace : place = d.placeOf p := locate_place hlocate
    have hcontent : d.find? place = some (.file content) := locateNames_bears hlocate
    rw [hplace, hfind] at hcontent
    cases hcontent
    rw [hlocate, hplace]

/-- The text of a file is read from a path that leads to it. -/
theorem read_of_locate {p : Path} {place : Location} {text : String}
    (h : d.locate p = .ok (.present place (.file text.toUTF8))) : d.read p = .ok text := by
  have hdecode : String.fromUTF8? text.toUTF8 = some text := by
    unfold String.fromUTF8?
    exact dif_pos text.isValidUTF8
  simp only [read, h, hdecode]

/-- Something exists at the path of a text that is read. -/
theorem hasEntry_of_read {p : Path} {text : String} (h : d.read p = .ok text) :
    d.hasEntry p = true :=
  hasEntry_iff.mpr ⟨_, locate_of_read h⟩

/-- A file has the same text when directories stay and its location is as it was. -/
theorem KeepsDirectories.read (h : KeepsDirectories d d') {p : Path} {text : String}
    (hfind : d'.find? (d.placeOf p) = d.find? (d.placeOf p)) (hread : d.read p = .ok text) :
    d'.read p = .ok text :=
  read_of_locate <|
    h.locate_end (locate_of_read hread) (.inr ⟨_, rfl⟩) (hfind.trans (find?_of_read hread))

/-- A text that is read when directories have stayed was read before, if something existed at its
path and a file there is as it was. -/
theorem KeepsDirectories.read_before (h : KeepsDirectories d d') {p : Path} {text : String}
    (hfile : ∀ content, d.find? (d.placeOf p) = some (.file content) →
      d'.find? (d.placeOf p) = some (.file content))
    (hentry : d.hasEntry p = true) (hread : d'.read p = .ok text) : d.read p = .ok text := by
  obtain ⟨entry, hlocate⟩ := hasEntry_iff.mp hentry
  cases entry with
  | directory =>
    have hnow := h.locate hlocate
    rw [locate_of_read hread, h.placeOf] at hnow
    cases hnow
  | file content =>
    have hnow := hfile content (locateNames_bears hlocate)
    rw [← h.placeOf, find?_of_read hread] at hnow
    cases hnow
    exact read_of_locate hlocate

/-- A path that is written to leads to the file with the text. -/
theorem locate_write {p : Path} {text : String} (h : d.write p text = .ok d') :
    d'.locate p = .ok (.present (d.placeOf p) (.file text.toUTF8)) := by
  have hfind : d'.find? (d.placeOf p) = some (.file text.toUTF8) := by
    rw [find?_write h, if_pos rfl]
  rcases (write_ok h).2 with hlocate | ⟨content, hlocate⟩
  · exact (keepsDirectories_write h).locate_end hlocate (.inl rfl) hfind
  · exact (keepsDirectories_write h).locate_end hlocate (.inr ⟨content, rfl⟩) hfind

/-- A text that is written to a path is read from it. -/
theorem read_write {p : Path} {text : String} (h : d.write p text = .ok d') :
    d'.read p = .ok text :=
  read_of_locate (locate_write h)

/-- Something exists at a path that is written to. -/
theorem hasEntry_write {p : Path} {text : String} (h : d.write p text = .ok d') :
    d'.hasEntry p = true :=
  hasEntry_of_read (read_write h)

/-- A path that can be written to leads to what is in its place later, when directories stay. -/
theorem KeepsDirectories.locate_of_write (h : KeepsDirectories d d') {p : Path} {text : String}
    (hwrite : d.write p text = .ok d'') : d'.locate p = .ok (d'.targetAt (d.placeOf p)) := by
  rcases (write_ok hwrite).2 with hvacant | ⟨content, hfile⟩
  · exact h.locate_targetAt hvacant (.inl rfl)
  · exact h.locate_targetAt hfile (.inr ⟨content, rfl⟩)

/-- Where a text can be written, one can be written later, when directories stay and no other comes
in its place. -/
theorem KeepsDirectories.exists_write (h : KeepsDirectories d d') {p : Path} {text : String}
    (hwrite : d.write p text = .ok d'') (hplace : d'.find? (d.placeOf p) ≠ some .directory)
    (text' : String) : ∃ d₁, d'.write p text' = .ok d₁ := by
  have hlast : p.names.getLast? ≠ some "" := by
    intro hlast
    rw [write, if_pos hlast] at hwrite
    split at hwrite <;> cases hwrite
  rw [write, if_neg hlast, h.locate_of_write hwrite, targetAt]
  match hfind : d'.find? (d.placeOf p) with
  | some .directory => exact absurd hfind hplace
  | some (.file content) => exact ⟨_, rfl⟩
  | none => exact ⟨_, rfl⟩

/-- The directory of a file that is written is there. -/
theorem locate_of_write_join {dir : Path} {name text : String} (hname : IsEntryName name)
    (hdir : ¬dir.text.isEmpty) (h : d.write (dir.join name) text = .ok d') :
    d.locate dir = .ok (.present (d.placeOf dir) .directory) := by
  rcases (write_ok h).2 with hvacant | ⟨content, hfile⟩
  · exact locate_join hname hdir hvacant
  · exact locate_join hname hdir hfile

/-- A walk from a directory comes to the files that can be written into it. -/
theorem inReach_of_write {dir : Path} {name text : String} (hname : IsEntryName name)
    (h : d.write (dir.join name) text = .ok d') : d.InReach dir (d.placeOf (dir.join name)) := by
  refine inReach_join hname ?_
  have hfits : (dir.join name).text.utf8ByteSize ≤ maxPath := by
    rcases (write_ok h).2 with hlocate | ⟨content, hlocate⟩
    all_goals exact Nat.le_of_not_lt (locateNames_ok hlocate).1.2.2
  obtain ⟨rest, htext⟩ := dir.exists_join_text hname.noSlash
  rw [htext, String.utf8ByteSize_append] at hfits
  omega

/-- After a file is written, a walk sees it, if it comes to it, and what it saw before. -/
theorem sees_write {p dir : Path} {text : String} {place : Location}
    (h : d.write p text = .ok d') :
    d'.Sees dir place ↔
      d.Sees dir place ∨ place = d.placeOf p ∧ d.placeOf dir <+: place ∧ d.InReach dir place := by
  have hplace := placeOf_congr (workDir_write h) dir
  have hreach : d'.InReach dir place ↔ d.InReach dir place := inReach_congr (workDir_write h)
  constructor
  · rintro ⟨hfile, hbelow, hopened⟩
    rw [hplace] at hbelow
    rw [hreach] at hopened
    rcases (isFile_write h place).mp hfile with hnew | hold
    · exact .inr ⟨hnew, hbelow, hopened⟩
    · exact .inl ⟨hold, hbelow, hopened⟩
  · rintro (⟨hfile, hbelow, hopened⟩ | ⟨hnew, hbelow, hopened⟩)
    · exact ⟨(isFile_write h place).mpr (.inr hfile), hplace ▸ hbelow, hreach.mpr hopened⟩
    · exact ⟨(isFile_write h place).mpr (.inl hnew), hplace ▸ hbelow, hreach.mpr hopened⟩

/-- Where nothing exists at a path that is written to, its location is free. -/
theorem find?_of_write_absent {p : Path} {text : String} (habsent : d.hasEntry p = false)
    (h : d.write p text = .ok d') : d.find? (d.placeOf p) = none := by
  rcases (write_ok h).2 with hvacant | ⟨content, hfile⟩
  · exact (locateNames_bears hvacant).1
  · rw [hasEntry_iff.mpr ⟨_, hfile⟩] at habsent
    cases habsent

/-! ## Disks that grow -/

/-- The directories and the files of one disk are there on another. -/
structure Grows (d d' : Disk) : Prop extends KeepsDirectories d d' where
  /-- Every file stays one. -/
  isFile : ∀ place, d.isFile place = true → d'.isFile place = true

/-- A disk has its own directories and files. -/
theorem Grows.refl (d : Disk) : Grows d d := ⟨.refl d, fun _ h => h⟩

/-- A disk grows in several changes. -/
theorem Grows.trans (h : Grows d d') (h' : Grows d' d'') : Grows d d'' where
  workDir := h'.workDir.trans h.workDir
  find? place hplace := h'.find? place (h.find? place hplace)
  isFile place hplace := h'.isFile place (h.isFile place hplace)

/-- Writing lets a disk grow. -/
theorem grows_write {p : Path} {text : String} (h : d.write p text = .ok d') : Grows d d' :=
  ⟨keepsDirectories_write h, fun place hplace => (isFile_write h place).mpr (.inr hplace)⟩

/-- A disk that grows frees no location. -/
theorem Grows.isSome_find? (h : Grows d d') {place : Location} (hplace : (d.find? place).isSome) :
    (d'.find? place).isSome := by
  obtain ⟨entry, hentry⟩ := Option.isSome_iff_exists.mp hplace
  cases entry with
  | directory => rw [h.find? place hentry]; rfl
  | file content =>
    obtain ⟨content', hfile⟩ := isFile_iff.mp (h.isFile place (isFile_iff.mpr ⟨content, hentry⟩))
    rw [hfile]
    rfl

/-- A walk sees what it saw when the disk has grown. -/
theorem Grows.sees (h : Grows d d') {dir : Path} {place : Location} (hsees : d.Sees dir place) :
    d'.Sees dir place where
  isFile := h.isFile place hsees.isFile
  below := by
    rw [h.placeOf]
    exact hsees.below
  inReach := (inReach_congr h.workDir).mpr hsees.inReach

/-- What exists at a path exists there when the disk has grown. -/
theorem Grows.hasEntry (h : Grows d d') {p : Path} (hthere : d.hasEntry p = true) :
    d'.hasEntry p = true :=
  h.toKeepsDirectories.hasEntry h.isSome_find? hthere

/-! ## Making directories -/

/-- Everything of one disk is on another, which has no further files. -/
structure AddsDirectories (d d' : Disk) : Prop where
  /-- Relative paths start at the same directory. -/
  workDir : d'.workDir = d.workDir
  /-- Every entry stays as it is. -/
  find? : ∀ place entry, d.find? place = some entry → d'.find? place = some entry
  /-- Every file was there. -/
  file : ∀ place content,
    d'.find? place = some (.file content) → d.find? place = some (.file content)

/-- A disk has its own entries. -/
theorem AddsDirectories.refl (d : Disk) : AddsDirectories d d :=
  ⟨rfl, fun _ _ h => h, fun _ _ h => h⟩

/-- Directories are added in several changes. -/
theorem AddsDirectories.trans (h : AddsDirectories d d') (h' : AddsDirectories d' d'') :
    AddsDirectories d d'' where
  workDir := h'.workDir.trans h.workDir
  find? place entry hplace := h'.find? place entry (h.find? place entry hplace)
  file place content hplace := h.file place content (h'.file place content hplace)

/-- Where directories are added, directories stay. -/
theorem AddsDirectories.keeps (h : AddsDirectories d d') : KeepsDirectories d d' :=
  ⟨h.workDir, fun place => h.find? place .directory⟩

/-- A disk grows where directories are added. -/
theorem AddsDirectories.grows (h : AddsDirectories d d') : Grows d d' where
  toKeepsDirectories := h.keeps
  isFile place hplace := by
    obtain ⟨content, hfile⟩ := isFile_iff.mp hplace
    exact isFile_iff.mpr ⟨content, h.find? place _ hfile⟩

/-- Where directories are added, the files stay as they are. -/
theorem AddsDirectories.find?_file (h : AddsDirectories d d') (place : Location)
    (content : ByteArray) :
    d'.find? place = some (.file content) ↔ d.find? place = some (.file content) :=
  ⟨h.file place content, h.find? place (.file content)⟩

/-- Where directories are added, there are the same files. -/
theorem AddsDirectories.isFile (h : AddsDirectories d d') (place : Location) :
    d'.isFile place = d.isFile place := by
  rw [Bool.eq_iff_iff, isFile_iff, isFile_iff]
  simp only [h.find?_file]

/-- A walk sees the same files where directories are added. -/
theorem AddsDirectories.sees (h : AddsDirectories d d') (dir : Path) (place : Location) :
    d'.Sees dir place ↔ d.Sees dir place := by
  constructor
  · rintro ⟨hfile, hbelow, hreach⟩
    exact ⟨by rwa [← h.isFile], by rwa [← h.keeps.placeOf], (inReach_congr h.workDir).mp hreach⟩
  · exact h.grows.sees

/-- A directory is made at a free location. -/
theorem makeDir_ok {p : Path} (h : d.makeDir p = .ok d') :
    ∃ place, d.locateTrimmed p = .ok (.vacant place) ∧ d' = d.put place .directory := by
  unfold makeDir at h
  split at h
  · cases h
  · cases h
  · exact ⟨_, ‹_›, by cases h; rfl⟩

/-- A directory that is put at a free location is added. -/
theorem addsDirectories_put {place : Location} (hroom : HasRoom d.entries place)
    (h : d.find? place = none) : AddsDirectories d (d.put place .directory) := by
  refine ⟨workDir_put d place .directory, fun q entry hq => ?_, fun q content hq => ?_⟩
  · rw [find?_put hroom, if_neg, hq]
    rintro rfl
    rw [h] at hq
    cases hq
  · rw [find?_put hroom] at hq
    split at hq
    · cases hq
    · exact hq

/-- Making a directory adds a directory. -/
theorem addsDirectories_makeDir {p : Path} (h : d.makeDir p = .ok d') : AddsDirectories d d' := by
  obtain ⟨place, hlocate, rfl⟩ := makeDir_ok h
  exact addsDirectories_put (hasRoom_of_vacant hlocate) (locateNames_bears hlocate).1

/-- Only empty names are trimmed from the end of a path. -/
theorem exists_names_eq (p : Path) :
    ∃ blanks, p.names = trimmedNames p ++ blanks ∧ ∀ name ∈ blanks, name = "" := by
  refine ⟨(p.names.reverse.takeWhile (· == "")).reverse, ?_, fun name hname => ?_⟩
  · rw [trimmedNames, ← List.reverse_append, List.takeWhile_append_dropWhile,
      List.reverse_reverse]
  · have h := List.mem_takeWhile_imp (List.mem_reverse.mp hname)
    simpa using h

/-- Empty names lead nowhere. -/
theorem follow_blanks (d : Disk) (place : Location) {blanks : List String}
    (h : ∀ name ∈ blanks, name = "") :
    d.follow (.present place .directory) blanks = .ok (.present place .directory) := by
  induction blanks with
  | nil => rfl
  | cons name rest ih =>
    obtain ⟨hname, hrest⟩ := List.forall_mem_cons.mp h
    rw [Disk.follow, if_pos (.inl hname), ih hrest]

/-- A directory that is made is there. -/
theorem hasDirectory_makeDir {p : Path} (h : d.makeDir p = .ok d') : d'.hasDirectory p := by
  have hadds := addsDirectories_makeDir h
  obtain ⟨place, hlocate, rfl⟩ := makeDir_ok h
  obtain ⟨hcheck, hfollow⟩ := locateNames_ok hlocate
  obtain ⟨blanks, hnames, hblanks⟩ := exists_names_eq p
  have hfind : (d.put place .directory).find? place = some .directory := by
    rw [find?_put (hasRoom_of_vacant hlocate), if_pos rfl]
  have hmade := hadds.keeps.follow_end hfollow (.inl rfl)
  rw [targetAt, hfind] at hmade
  have hthere : (d.put place .directory).locate p = .ok (.present place .directory) := by
    rw [locate, locateNames_eq_follow hcheck, hnames, follow_append, hadds.keeps.origin, origin,
      hmade]
    exact follow_blanks _ place hblanks
  rw [hasDirectory, hthere]

/-- Making several directories adds directories, also if it fails. -/
theorem addsDirectories_makeChain (d : Disk) (chain : List Path) :
    AddsDirectories d (d.makeChain chain).1 := by
  -- A failure comes with the directories that were made above it.
  fun_induction makeChain d chain with
  | case1 => exact .refl _
  | case2 => exact .refl _
  | case3 p above hp d' hmake => exact addsDirectories_makeDir hmake
  | case4 p above hp hmake d' fault habove ih => rwa [habove] at ih
  | case5 p above hp hmake d' habove d'' hmade ih =>
    rw [habove] at ih
    exact ih.trans (addsDirectories_makeDir hmade)
  | case6 p above hp hmake d' habove fault hmade ih => rwa [habove] at ih
  | case7 => exact .refl _

/-- Making a directory and those above it adds directories, also if it fails. -/
theorem addsDirectories_makeDirs (d : Disk) (p : Path) : AddsDirectories d (d.makeDirs p).1 :=
  addsDirectories_makeChain d _

/-- The first of several directories is there if they are made without a failure. -/
theorem hasDirectory_makeChain {p : Path} {above : List Path} (hp : ¬p.text.isEmpty)
    (h : (d.makeChain (p :: above)).2 = none) : (d.makeChain (p :: above)).1.hasDirectory p := by
  rw [makeChain, if_neg hp] at h ⊢
  split at h
  next d' hmake => exact hasDirectory_makeDir hmake
  next hmake =>
    split at h
    next => cases h
    next d' habove =>
      split at h
      next d'' hmade => exact hasDirectory_makeDir hmade
      next =>
        by_contra hnot
        simp [hnot] at h
  next =>
    by_contra hnot
    simp [hnot] at h

/-- A directory is there if it is made without a failure. -/
theorem hasDirectory_makeDirs {p : Path} (hp : ¬p.text.isEmpty) (h : (d.makeDirs p).2 = none) :
    (d.makeDirs p).1.hasDirectory p := by
  have hchain : ∃ above, ancestors p.text.length p = p :: above := by
    cases hlength : p.text.length with
    | zero => exact ⟨[], rfl⟩
    | succ n =>
      rw [ancestors]
      cases p.parent? with
      | none => exact ⟨[], rfl⟩
      | some parent => exact ⟨ancestors n parent, rfl⟩
  obtain ⟨above, hchain⟩ := hchain
  rw [makeDirs, hchain] at h ⊢
  exact hasDirectory_makeChain hp h

end SchemaForge.Disk
