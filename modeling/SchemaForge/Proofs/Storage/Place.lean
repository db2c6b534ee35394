import Mathlib.Algebra.GroupWithZero.Nat
import Mathlib.Data.List.Infix
import Mathlib.Tactic.Common
import SchemaForge.Storage.Disk

/-!
# Where paths lead

A disk has no links, so the names of a path alone say where it leads (`placeOf`), whether or not
there is anything: `locate_place` shows that a path that can be followed leads there. Following a
path is following its names one after the other (`follow_append`), and the name of a file that is
joined to a directory comes last (`names_join`), so a file's path can be followed only when its
directory is there (`locate_join`).

A walk comes to the files below its start whose directories have paths that are short enough
(`mem_filesUnder`, `inReach_append`).
-/

namespace SchemaForge

/-- A name that leads to an entry of a directory: it has no slash, and it is not empty, a dot or two
dots. -/
structure IsEntryName (name : String) : Prop where
  /-- There is no slash in it. -/
  noSlash : '/' ∉ name.toList
  /-- It has a character. -/
  ne_empty : name ≠ ""
  /-- It is not the directory itself. -/
  ne_dot : name ≠ "."
  /-- It is not the directory above. -/
  ne_dots : name ≠ ".."

/-- A name of more than two characters and no slash is the name of an entry. -/
theorem isEntryName_of_length {name : String} (h : '/' ∉ name.toList)
    (hlength : 2 < name.toList.length) : IsEntryName name := by
  refine ⟨h, ?_, ?_, ?_⟩ <;>
    · rintro rfl
      simp at hlength

/-! ## Names of a path -/

namespace Path

/-- Cutting a text without a slash gives one name. -/
theorem splitNames_of_noSlash {text : List Char} (h : '/' ∉ text) (name : List Char) :
    splitNames name text = [String.ofList (name.reverse ++ text)] := by
  induction text generalizing name with
  | nil => simp [splitNames]
  | cons c rest ih =>
    obtain ⟨hc, hrest⟩ := not_or.mp (mt List.mem_cons.mpr h)
    rw [splitNames, if_neg (Ne.symm hc), ih hrest]
    simp

/-- A slash divides the names before it from those after it. -/
theorem splitNames_append (a b name : List Char) :
    splitNames name (a ++ '/' :: b) = splitNames name a ++ splitNames [] b := by
  induction a generalizing name with
  | nil => simp [splitNames]
  | cons c rest ih =>
    by_cases hc : c = '/'
    · simp [splitNames, hc, ih]
    · simp [splitNames, hc, ih]

/-- Cutting gives at least one name. -/
theorem splitNames_ne_nil (text name : List Char) : splitNames name text ≠ [] := by
  cases text with
  | nil => simp [splitNames]
  | cons c rest =>
    rw [splitNames]
    split
    · simp
    · exact splitNames_ne_nil rest (c :: name)

/-- The text of a directory joined with a name that has no slash. -/
theorem join_text (dir : Path) {name : String} (h : '/' ∉ name.toList) :
    (dir.join name).text.toList =
      (if dir.text.toList.getLast?.all (· == '/') then dir.text.toList
        else dir.text.toList ++ ['/']) ++ name.toList := by
  have hhead : name.toList.head? ≠ some '/' := fun he => h (List.mem_of_mem_head? he)
  rw [join, if_neg hhead]
  split <;> simp

/-- The text of a directory joined with a name starts with the text of the directory. -/
theorem exists_join_text (dir : Path) {name : String} (h : '/' ∉ name.toList) :
    ∃ rest, (dir.join name).text = dir.text ++ rest := by
  have hhead : name.toList.head? ≠ some '/' := fun he => h (List.mem_of_mem_head? he)
  rw [join, if_neg hhead]
  split
  · exact ⟨name, rfl⟩
  · exact ⟨"/" ++ name, String.append_assoc⟩

/-- A path in a directory is empty only when both parts are. -/
theorem join_ne_empty (base : Path) (part : String) (h : ¬base.text.isEmpty ∨ ¬part.isEmpty) :
    ¬(base.join part).text.isEmpty := by
  rw [String.isEmpty_iff, String.isEmpty_iff] at h
  rw [join]
  split
  · rintro hpart
    simp_all
  · split
    · rw [String.isEmpty_iff, String.append_eq_empty_iff]
      exact not_and_or.mpr h
    · simp

/-- The text of a path below a directory has the bytes of the directory's text and those of every
name with a slash in front. -/
theorem utf8ByteSize_foldl_join {dir : Path}
    (hdir : dir.text.toList.getLast?.all (· == '/') = false) {names : List String}
    (hnames : ∀ name ∈ names, IsEntryName name) :
    (names.foldl join dir).text.utf8ByteSize =
      dir.text.utf8ByteSize + (names.map fun name => 1 + name.utf8ByteSize).sum := by
  induction names generalizing dir with
  | nil => rfl
  | cons name rest ih =>
    obtain ⟨hname, hrest⟩ := List.forall_mem_cons.mp hnames
    have hhead : name.toList.head? ≠ some '/' :=
      fun he => hname.noSlash (List.mem_of_mem_head? he)
    have hjoin : dir.join name = ⟨dir.text ++ "/" ++ name⟩ := by
      rw [join, if_neg hhead, if_neg (by simp [hdir])]
    -- The text ends in the name now, so in no slash.
    have hlast : (dir.join name).text.toList.getLast?.all (· == '/') = false := by
      have hne : name.toList ≠ [] := fun h => hname.ne_empty (String.toList_eq_nil_iff.mp h)
      rw [hjoin, String.toList_append, List.getLast?_append_of_ne_nil _ hne,
        List.getLast?_eq_some_getLast hne, Option.all_some, beq_eq_false_iff_ne]
      exact fun hslash => hname.noSlash (hslash ▸ List.getLast_mem hne)
    rw [List.foldl_cons, ih hlast hrest, hjoin, List.map_cons, List.sum_cons,
      String.utf8ByteSize_append, String.utf8ByteSize_append]
    have hslash : "/".utf8ByteSize = 1 := rfl
    omega

/-- The names of a directory joined with a name end in that name. Before it stand the names of the
directory, except for an empty last one. -/
theorem names_join (dir : Path) {name : String} (h : '/' ∉ name.toList) :
    ∃ front, (dir.join name).names = front ++ [name] ∧
      (dir.names = front ∨ dir.names = front ++ [""]) := by
  have hname : splitNames [] name.toList = [name] := by
    rw [splitNames_of_noSlash h]
    simp
  rw [names, names, join_text dir h]
  -- The last character of the directory decides whether a slash comes between.
  rcases List.eq_nil_or_concat' dir.text.toList with hnil | ⟨front, c, hc⟩
  · exact ⟨[], by simp [hnil, hname], .inr (by simp [hnil, splitNames])⟩
  · by_cases hslash : c = '/'
    · subst hslash
      refine ⟨splitNames [] front, ?_, .inr ?_⟩
      · rw [hc, if_pos (by simp), List.append_assoc, List.singleton_append, splitNames_append,
          hname]
      · rw [hc, splitNames_append]
        rfl
    · refine ⟨splitNames [] dir.text.toList, ?_, .inl rfl⟩
      rw [if_neg (by simp [hc, hslash]), List.append_assoc, List.singleton_append,
        splitNames_append, hname]

/-- The path of an entry of a directory goes up only where the directory does. -/
theorem up_not_mem_join {dir : Path} (h : ".." ∉ dir.names) {name : String}
    (hname : IsEntryName name) : ".." ∉ (dir.join name).names := by
  obtain ⟨front, hnames, hdir⟩ := names_join dir hname.noSlash
  have hfront : ".." ∉ front := by
    rcases hdir with hdir | hdir
    · rwa [← hdir]
    · exact fun hup => h (by simp [hdir, hup])
  rw [hnames, List.mem_append, List.mem_singleton, not_or]
  exact ⟨hfront, Ne.symm hname.ne_dots⟩

/-- A directory joined with a name without a slash starts where the directory starts. -/
theorem isAbsolute_join (dir : Path) {name : String} (h : '/' ∉ name.toList) :
    (dir.join name).isAbsolute = dir.isAbsolute := by
  have hhead : name.toList.head? ≠ some '/' := fun he => h (List.mem_of_mem_head? he)
  rw [isAbsolute, isAbsolute, join_text dir h]
  cases hdir : dir.text.toList with
  | nil => simpa using hhead
  | cons c rest => split <;> simp

/-- Nothing is dropped from the end of a text that ends in another character. -/
theorem dropTrailing_of_head {c : Char} {rest : List Char} (hslash : c ≠ '/') (hdot : c ≠ '.') :
    dropTrailing (c :: rest) = c :: rest := by
  unfold dropTrailing
  split <;> simp_all

/-- The name at the end of a reversed text goes up to a slash or to the start of the text. -/
theorem takeWhile_reversed {front name : List Char} {c : Char}
    (hfront : front.getLast?.all (· == '/') = true) (h : '/' ∉ name) (hlast : name.getLast? = some c)
    (hdot : c ≠ '.') :
    (dropTrailing (front ++ name).reverse).takeWhile (· != '/') = name.reverse := by
  obtain ⟨init, rfl⟩ : ∃ init, name = init ++ [c] := List.getLast?_eq_some_iff.mp hlast
  have hslash : c ≠ '/' := by
    rintro rfl
    exact h (by simp)
  have hname : ∀ x ∈ (init ++ [c]).reverse, (x != '/') = true := by
    intro x hx
    rw [bne_iff_ne]
    rintro rfl
    exact h (List.mem_reverse.mp hx)
  have hdrop : dropTrailing (front ++ (init ++ [c])).reverse =
      (init ++ [c]).reverse ++ front.reverse := by
    rw [List.reverse_append, List.reverse_append]
    exact dropTrailing_of_head hslash hdot
  rw [hdrop, List.takeWhile_append_of_pos hname]
  rcases List.eq_nil_or_concat' front with rfl | ⟨more, d, rfl⟩
  · simp
  · obtain rfl : d = '/' := by simpa using hfront
    simp

/-- The last name of a path whose text ends in a name. -/
theorem fileName?_of_text {p : Path} {front : List Char} {name : String} {c : Char}
    (htext : p.text.toList = front ++ name.toList) (hfront : front.getLast?.all (· == '/') = true)
    (h : '/' ∉ name.toList) (hlast : name.toList.getLast? = some c) (hdot : c ≠ '.') :
    p.fileName? = some name := by
  have hends : p.text.toList.getLast? = some c := by
    rw [htext, List.getLast?_append, hlast]
    rfl
  have hbody : p.body.2.takeWhile (· != '/') = name.toList.reverse := by
    rw [body]
    split
    next rest hcase =>
      rw [hcase] at htext
      have hreverse : rest.reverse ++ ['/'] = (front ++ name.toList).reverse := by
        rw [← htext, List.reverse_cons]
      rw [hreverse]
      exact takeWhile_reversed hfront h hlast hdot
    next hcase =>
      rw [hcase] at hends
      exact absurd (Option.some.inj hends).symm hdot
    next rest hcase =>
      -- The dot at the start is in front of the name, with the slash after it.
      rw [hcase] at htext
      match front with
      | [] =>
        rw [List.nil_append] at htext
        exact absurd (by rw [← htext]; simp) h
      | [d] =>
        obtain rfl : '.' = d := by simpa using congrArg List.head? htext
        cases hfront
      | d :: e :: tail =>
        have htail : '/' :: rest = (e :: tail) ++ name.toList := (List.cons.inj htext).2
        have hreverse : rest.reverse ++ ['/'] = ((e :: tail) ++ name.toList).reverse := by
          rw [← htail, List.reverse_cons]
        rw [hreverse]
        exact takeWhile_reversed (by simpa using hfront) h hlast hdot
    next =>
      rw [htext]
      exact takeWhile_reversed hfront h hlast hdot
  have hne : ¬(name.toList = [] ∨ name.toList = ['.', '.']) := by
    rintro (hnil | hdots)
    · rw [hnil] at hlast
      cases hlast
    · rw [hdots] at hlast
      exact hdot (Option.some.inj hlast).symm
  rw [fileName?, hbody, List.reverse_reverse]
  simp only [if_neg hne, String.ofList_toList]

/-- The last name of a directory joined with a name is that name. -/
theorem fileName?_join (dir : Path) {name : String} (h : '/' ∉ name.toList) {c : Char}
    (hlast : name.toList.getLast? = some c) (hdot : c ≠ '.') :
    (dir.join name).fileName? = some name := by
  refine fileName?_of_text (join_text dir h) ?_ h hlast hdot
  split
  next hall => exact hall
  next => simp

end Path

/-! ## Locations of paths -/

/-- Where one more name leads, whether or not there is anything. -/
def Location.enter (place : Location) (name : String) : Location :=
  if name = "" ∨ name = "." then place
  else if name = ".." then place.dropLast
  else place ++ [name]

/-- The location of a target. -/
def Target.place : Target → Location
  | .present place _ | .vacant place => place

namespace Disk

variable {d : Disk}

/-- A disk is given by what is where on it and by the directory where paths start. -/
theorem eq_mk {entries : List (Location × Entry)} {workDir : Location}
    {htree : IsTree entries workDir} (hentries : d.entries = entries)
    (hworkDir : d.workDir = workDir) : d = ⟨entries, workDir, htree⟩ := by
  subst hentries hworkDir
  rfl

/-- Where a path leads, whether or not there is anything. -/
def placeOf (d : Disk) (p : Path) : Location :=
  p.names.foldl Location.enter (if p.isAbsolute then [] else d.workDir)

/-- Where paths lead depends on the working directory only. -/
theorem placeOf_congr {d' : Disk} (h : d'.workDir = d.workDir) (p : Path) :
    d'.placeOf p = d.placeOf p := by
  rw [placeOf, placeOf, h]

/-- The name of an entry leads one level down. -/
theorem enter_entryName {name : String} (h : IsEntryName name) (place : Location) :
    place.enter name = place ++ [name] := by
  rw [Location.enter, if_neg (not_or.mpr ⟨h.ne_empty, h.ne_dot⟩), if_neg h.ne_dots]

/-- An entry of a directory lies below it. -/
theorem placeOf_join (d : Disk) (dir : Path) {name : String} (h : IsEntryName name) :
    d.placeOf (dir.join name) = d.placeOf dir ++ [name] := by
  obtain ⟨front, hnames, hdir⟩ := dir.names_join h.noSlash
  have hfront : dir.names.foldl Location.enter (if dir.isAbsolute then [] else d.workDir) =
      front.foldl Location.enter (if dir.isAbsolute then [] else d.workDir) := by
    rcases hdir with hdir | hdir <;> simp [hdir, Location.enter]
  rw [placeOf, placeOf, hfront, hnames, dir.isAbsolute_join h.noSlash, List.foldl_append]
  exact enter_entryName h _

/-! ## Following names -/

/-- Following names one after the other. -/
theorem follow_append (t : Target) (a b : List String) :
    d.follow t (a ++ b) = (d.follow t a).bind fun t => d.follow t b := by
  fun_induction follow d t a with
  | case1 t => rfl
  | case2 => rfl
  | case3 => rfl
  | case4 place name rest h ih => rw [List.cons_append, follow, if_pos h, ih]
  | case5 place rest h ih => rw [List.cons_append, follow, if_neg h, if_pos rfl, ih]
  | case6 place name rest h h' hlong =>
    rw [List.cons_append, follow, if_neg h, if_neg h', if_pos hlong]
    rfl
  | case7 place name rest h h' hlong entry hfind ih =>
    rw [List.cons_append, follow, if_neg h, if_neg h', if_neg hlong, hfind]
    exact ih
  | case8 place name rest h h' hlong hfind ih =>
    rw [List.cons_append, follow, if_neg h, if_neg h', if_neg hlong, hfind]
    exact ih

/-- Names that can be followed lead where they say. -/
theorem follow_place {t t' : Target} {names : List String} (h : d.follow t names = .ok t') :
    t'.place = names.foldl Location.enter t.place := by
  fun_induction follow d t names with
  | case1 t => cases h; rfl
  | case2 => cases h
  | case3 => cases h
  | case4 place name rest hname ih =>
    rw [ih h]
    simp [Target.place, Location.enter, hname]
  | case5 place rest hname ih =>
    rw [ih h]
    simp [Target.place, Location.enter]
  | case6 => cases h
  | case7 place name rest hname hdots hlong entry hfind ih =>
    rw [ih h]
    simp [Target.place, Location.enter, hname, hdots]
  | case8 place name rest hname hdots hlong hfind ih =>
    rw [ih h]
    simp [Target.place, Location.enter, hname, hdots]

/-- Whatever is at a location other than the root is listed. -/
theorem mem_entries_of_find? {place : Location} {entry : Entry} (hplace : place ≠ [])
    (h : d.find? place = some entry) : (place, entry) ∈ d.entries := by
  rw [find?, entryAt, if_neg hplace] at h
  obtain ⟨before, after, hentries, -⟩ := List.lookup_eq_some_iff.mp h
  simp [hentries]

/-- Whatever is at a location lies in a directory. -/
theorem find?_dropLast {place : Location} (h : (d.find? place).isSome) :
    d.find? place.dropLast = some .directory := by
  obtain ⟨entry, hentry⟩ := Option.isSome_iff_exists.mp h
  by_cases hroot : place = []
  · rw [hroot]
    rfl
  · exact d.isTree.1 (place, entry) (mem_entries_of_find? hroot hentry)

/-- A target that the disk bears out: what is present is there, and a free location lies in a
directory. -/
def Bears (d : Disk) : Target → Prop
  | .vacant place => d.find? place = none ∧ d.find? place.dropLast = some .directory
  | .present place entry => d.find? place = some entry

/-- Following names leads to a target that the disk bears out. -/
theorem follow_bears {t t' : Target} {names : List String} (ht : d.Bears t)
    (h : d.follow t names = .ok t') : d.Bears t' := by
  fun_induction follow d t names with
  | case1 t => cases h; exact ht
  | case2 => cases h
  | case3 => cases h
  | case4 place name rest hname ih => exact ih ht h
  | case5 place rest hname ih =>
    have hplace : d.find? place = some .directory := ht
    exact ih (find?_dropLast (by rw [hplace]; rfl)) h
  | case6 => cases h
  | case7 place name rest hname hdots hlong entry hfind ih => exact ih hfind h
  | case8 place name rest hname hdots hlong hfind ih =>
    have hplace : d.find? place = some .directory := ht
    exact ih ⟨hfind, by rw [List.dropLast_concat, hplace]⟩ h

/-- The last of several names is looked up in the directory that the others lead to. -/
theorem follow_last {t t' : Target} {front : List String} {name : String}
    (hname : IsEntryName name) (h : d.follow t (front ++ [name]) = .ok t') :
    ∃ place, d.follow t front = .ok (.present place .directory) ∧
      t' = (match d.find? (place ++ [name]) with
        | some entry => .present (place ++ [name]) entry
        | none => .vacant (place ++ [name])) := by
  rw [follow_append] at h
  match hfront : d.follow t front with
  | .error fault => rw [hfront] at h; cases h
  | .ok (.vacant place) => rw [hfront] at h; cases h
  | .ok (.present place (.file content)) => rw [hfront] at h; cases h
  | .ok (.present place .directory) =>
    refine ⟨place, rfl, ?_⟩
    rw [hfront] at h
    simp only [Except.bind, follow, hname.ne_empty, hname.ne_dot, hname.ne_dots, or_self,
      if_false] at h
    split at h
    · cases h
    · cases hfind : d.find? (place ++ [name]) <;> simpa [hfind] using h.symm

/-! ## Locating a path -/

/-- Locating a path is following its names from its start, unless its text is refused. -/
theorem locateNames_ok {p : Path} {names : List String} {t : Target}
    (h : d.locateNames p names = .ok t) :
    (¬p.text.toList.contains '\x00' ∧ ¬p.text.isEmpty ∧ ¬maxPath < p.text.utf8ByteSize) ∧
      d.follow (d.origin p) names = .ok t := by
  unfold locateNames at h
  split at h
  · cases h
  · split at h
    · cases h
    · split at h
      · cases h
      · exact ⟨⟨‹_›, ‹_›, ‹_›⟩, h⟩

/-- A path with an acceptable text is located by following its names. -/
theorem locateNames_eq_follow {p : Path} {names : List String}
    (h : ¬p.text.toList.contains '\x00' ∧ ¬p.text.isEmpty ∧ ¬maxPath < p.text.utf8ByteSize) :
    d.locateNames p names = d.follow (d.origin p) names := by
  rw [locateNames, if_neg h.1, if_neg h.2.1, if_neg h.2.2]

/-- A path that can be followed leads to its location. -/
theorem locate_place {p : Path} {t : Target} (h : d.locate p = .ok t) : t.place = d.placeOf p := by
  rw [follow_place (locateNames_ok h).2]
  rfl

/-- Something exists at a path when the path can be followed to it. -/
theorem hasEntry_iff {p : Path} :
    d.hasEntry p = true ↔ ∃ entry, d.locate p = .ok (.present (d.placeOf p) entry) := by
  rw [hasEntry]
  match hlocate : d.locate p with
  | .error fault => simp
  | .ok (.vacant place) => simp
  | .ok (.present place entry) =>
    have hplace : place = d.placeOf p := locate_place hlocate
    simp [hplace]

/-- Something exists at the path of a directory. -/
theorem hasEntry_of_hasDirectory {p : Path} (h : d.hasDirectory p = true) : d.hasEntry p = true := by
  rw [hasDirectory] at h
  split at h
  next place hlocate => rw [hasEntry, hlocate]
  next => cases h

/-- A path leads to a target that the disk bears out. -/
theorem locateNames_bears {p : Path} {names : List String} {t : Target}
    (h : d.locateNames p names = .ok t) : d.Bears t := by
  refine follow_bears ?_ (locateNames_ok h).2
  rw [origin]
  split
  · exact rfl
  · exact d.isTree.2

/-- An entry of a directory can be located only when the directory is there. -/
theorem locate_join {dir : Path} {name : String} {t : Target} (hname : IsEntryName name)
    (hdir : ¬dir.text.isEmpty) (h : d.locate (dir.join name) = .ok t) :
    d.locate dir = .ok (.present (d.placeOf dir) .directory) := by
  obtain ⟨hcheck, hfollow⟩ := locateNames_ok h
  obtain ⟨front, hnames, hdirNames⟩ := dir.names_join hname.noSlash
  have horigin : d.origin (dir.join name) = d.origin dir := by
    rw [origin, origin, dir.isAbsolute_join hname.noSlash]
  rw [hnames, horigin] at hfollow
  obtain ⟨place, hplace, -⟩ := follow_last hname hfollow
  have hfollowDir : d.follow (d.origin dir) dir.names = .ok (.present place .directory) := by
    rcases hdirNames with hdirNames | hdirNames
    · rw [hdirNames, hplace]
    · rw [hdirNames, follow_append, hplace]
      rfl
  obtain ⟨rest, hrest⟩ := dir.exists_join_text hname.noSlash
  -- The directory's text is a part of the path's, so what the path's text passes, it passes.
  have hcheckDir : ¬dir.text.toList.contains '\x00' ∧ ¬dir.text.isEmpty ∧
      ¬maxPath < dir.text.utf8ByteSize := by
    rw [hrest, String.toList_append, String.utf8ByteSize_append] at hcheck
    refine ⟨fun hnul => hcheck.1 (by simp_all), hdir, by omega⟩
  have hlocate : d.locate dir = .ok (.present place .directory) := by
    rw [locate, locateNames_eq_follow hcheckDir, hfollowDir]
  rwa [← locate_place hlocate]

/-- What exists at a path is at its location. -/
theorem isSome_find?_of_hasEntry {p : Path} (h : d.hasEntry p = true) :
    (d.find? (d.placeOf p)).isSome := by
  obtain ⟨entry, hlocate⟩ := hasEntry_iff.mp h
  have hfind : d.find? (d.placeOf p) = some entry := locateNames_bears hlocate
  rw [hfind]
  rfl

/-! ## Files -/

/-- A text that is read from a file is what the file holds. -/
theorem find?_of_read {p : Path} {text : String} (h : d.read p = .ok text) :
    d.find? (d.placeOf p) = some (.file text.toUTF8) := by
  rw [read] at h
  match hlocate : d.locate p with
  | .error fault => rw [hlocate] at h; cases h
  | .ok (.vacant place) => rw [hlocate] at h; cases h
  | .ok (.present place .directory) => rw [hlocate] at h; cases h
  | .ok (.present place (.file content)) =>
    have hplace : place = d.placeOf p := locate_place hlocate
    have hfind : d.find? place = some (.file content) := locateNames_bears hlocate
    rw [hlocate] at h
    dsimp only at h
    rw [String.fromUTF8?] at h
    split at h
    next text' htext =>
      cases h
      split at htext
      next =>
        cases htext
        rw [← hplace, hfind]
        rfl
      next => cases htext
    next => cases h

/-- A location has a file when its entry is one. -/
theorem isFile_iff {place : Location} :
    d.isFile place = true ↔ ∃ content, d.find? place = some (.file content) := by
  rw [isFile]
  match d.find? place with
  | none => simp
  | some (.file content) => simp
  | some .directory => simp

/-- The location of a file is listed. -/
theorem mem_entries_of_isFile {place : Location} (h : d.isFile place = true) :
    place ∈ d.entries.map (·.1) := by
  obtain ⟨content, hfind⟩ := isFile_iff.mp h
  refine List.mem_map_of_mem (f := (·.1)) (mem_entries_of_find? ?_ hfind)
  rintro rfl
  cases hfind

/-! ## Walks -/

/-- A walk from a path opens the directory of a location below it: its path is not too long. -/
def InReach (d : Disk) (p : Path) (place : Location) : Prop :=
  walks p (place.drop (d.placeOf p).length) = true

/-- What a walk can come to depends on the working directory only. -/
theorem inReach_congr {d' : Disk} (h : d'.workDir = d.workDir) {p : Path} {place : Location} :
    d'.InReach p place ↔ d.InReach p place := by
  rw [InReach, InReach, placeOf_congr h]

instance {p : Path} {place : Location} : Decidable (d.InReach p place) := by
  unfold InReach; infer_instance

/-- A walk from a path sees the file at a location. -/
structure Sees (d : Disk) (p : Path) (place : Location) : Prop where
  /-- There is a file. -/
  isFile : d.isFile place = true
  /-- It is at the path or below it. -/
  below : d.placeOf p <+: place
  /-- Its directory can be opened. -/
  inReach : d.InReach p place

/-- The files that a walk from a path comes to are those that it sees, if the path can be
followed. -/
theorem mem_filesUnder {p : Path} {place : Location} :
    (∃ names, (place, names) ∈ d.filesUnder p) ↔
      (∃ entry, d.locate p = .ok (.present (d.placeOf p) entry)) ∧ d.Sees p place := by
  rw [filesUnder]
  match hlocate : d.locate p with
  | .error fault => simp
  | .ok (.vacant base) => simp
  | .ok (.present base entry) =>
    have hbase : base = d.placeOf p := locate_place hlocate
    subst hbase
    simp only [List.mem_filterMap, Option.ite_none_right_eq_some, Option.some.injEq,
      Prod.mk.injEq, List.isPrefixOf_iff_prefix]
    constructor
    · rintro ⟨names, inner, -, ⟨hbelow, hfile, hreach⟩, rfl, -⟩
      exact ⟨⟨entry, rfl⟩, hfile, hbelow, hreach⟩
    · rintro ⟨-, hfile, hbelow, hreach⟩
      exact ⟨_, place, mem_entries_of_isFile hfile, ⟨hbelow, hfile, hreach⟩, rfl, rfl⟩

/-- A walk comes to what is in a directory below its start if the path of that directory is not too
long. -/
theorem inReach_append {dir : Path} (hdir : dir.text.toList.getLast?.all (· == '/') = false)
    {names : List String} (hnames : ∀ name ∈ names, IsEntryName name) (name : String) :
    d.InReach dir (d.placeOf dir ++ (names ++ [name])) ↔
      dir.text.utf8ByteSize + (names.map fun name => 1 + name.utf8ByteSize).sum ≤ maxPath := by
  rw [InReach, List.drop_left, walks, List.dropLast_concat, decide_eq_true_iff,
    Path.utf8ByteSize_foldl_join hdir hnames]

/-- An entry of a directory is in reach of a walk from the directory if the directory's path is not
too long. -/
theorem inReach_join {dir : Path} {name : String} (hname : IsEntryName name)
    (h : dir.text.utf8ByteSize ≤ maxPath) : d.InReach dir (d.placeOf (dir.join name)) := by
  have hnames : (d.placeOf dir ++ [name]).drop (d.placeOf dir).length = [name] :=
    List.drop_left
  rw [InReach, placeOf_join d dir hname, hnames]
  exact decide_eq_true h

end Disk

end SchemaForge
