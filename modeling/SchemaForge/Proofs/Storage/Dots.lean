import SchemaForge.Proofs.Storage.Place

/-!
# Dots in front of a path

Dots in front of a relative path, each with its slash, lead nowhere else (`Disk.locate_dotted`), but
they make it longer. So what depends on the length of a path depends on its spelling: how deep a
walk can come, since it opens each directory by its whole path (`Disk.inReach_dotted`).
-/

namespace SchemaForge

namespace Path

variable {p : Path}

/-- A path with a number of dots in front of it, each with its slash. -/
def dotted : ℕ → Path → Path
  | 0, p => p
  | n + 1, p => ⟨"./" ++ (dotted n p).text⟩

/-- The names of a path come after the dots. -/
theorem names_dotted (n : ℕ) (p : Path) : (dotted n p).names = List.replicate n "." ++ p.names := by
  induction n with
  | zero => rfl
  | succ n ih =>
    have hdots : "./".toList = ['.', '/'] := rfl
    rw [List.replicate_succ, List.cons_append, ← ih, dotted, names, String.toList_append, hdots]
    rfl

/-- Every dot takes two bytes. -/
theorem utf8ByteSize_dotted (n : ℕ) (p : Path) :
    (dotted n p).text.utf8ByteSize = 2 * n + p.text.utf8ByteSize := by
  induction n with
  | zero => simp [dotted]
  | succ n ih =>
    have hdots : "./".utf8ByteSize = 2 := rfl
    rw [dotted, String.utf8ByteSize_append, ih, hdots]
    omega

/-- A relative path is relative with dots in front of it. -/
theorem isAbsolute_dotted (hp : p.isAbsolute = false) (n : ℕ) :
    (dotted n p).isAbsolute = false := by
  cases n with
  | zero => exact hp
  | succ n => simp [dotted, isAbsolute]

/-- A path with dots in front of it is not empty, unless it is without them. -/
theorem isEmpty_dotted (hp : p.text.isEmpty = false) (n : ℕ) :
    (dotted n p).text.isEmpty = false := by
  cases n with
  | zero => exact hp
  | succ n => simp [dotted, ← Bool.not_eq_true]

/-- Dots in front of a path hold no character but dots and slashes. -/
theorem contains_dotted {c : Char} (hdot : c ≠ '.') (hslash : c ≠ '/') (n : ℕ) (p : Path) :
    (dotted n p).text.toList.contains c = p.text.toList.contains c := by
  induction n with
  | zero => rfl
  | succ n ih =>
    have hdots : "./".toList = ['.', '/'] := rfl
    simpa [dotted, hdots, hdot, hslash] using ih

/-- A path ends as it does without dots in front of it. -/
theorem getLast?_dotted (hp : p.text.isEmpty = false) (n : ℕ) :
    (dotted n p).text.toList.getLast? = p.text.toList.getLast? := by
  induction n with
  | zero => rfl
  | succ n ih =>
    have hne : (dotted n p).text.toList ≠ [] := by simpa using isEmpty_dotted hp n
    rw [dotted, String.toList_append, List.getLast?_append_of_ne_nil _ hne, ih]

/-- Dots in front of a path stay in front when a name is joined to it. -/
theorem join_dotted (hp : p.text.isEmpty = false) {name : String} (hname : '/' ∉ name.toList)
    (n : ℕ) : (dotted n p).join name = dotted n (p.join name) := by
  have hhead : name.toList.head? ≠ some '/' := fun he => hname (List.mem_of_mem_head? he)
  induction n with
  | zero => rfl
  | succ n ih =>
    have hlast := (getLast?_dotted hp (n + 1)).trans (getLast?_dotted hp n).symm
    have hstep : (dotted (n + 1) p).join name = ⟨"./" ++ ((dotted n p).join name).text⟩ := by
      rw [join, join, if_neg hhead, if_neg hhead, hlast]
      split <;> simp [dotted, String.append_assoc]
    rw [hstep, ih, dotted]

end Path

namespace Disk

variable {d : Disk} {p : Path}

/-- A relative path has the same location with dots in front of it. -/
theorem placeOf_dotted (hrelative : p.isAbsolute = false) (n : ℕ) :
    d.placeOf (.dotted n p) = d.placeOf p := by
  have hdots : ∀ place : Location, (List.replicate n ".").foldl Location.enter place = place := by
    intro place
    induction n with
    | zero => rfl
    | succ n ih => rw [List.replicate_succ, List.foldl_cons, Location.enter, if_pos (.inr rfl), ih]
  rw [placeOf, placeOf, Path.names_dotted, Path.isAbsolute_dotted hrelative, hrelative,
    List.foldl_append, hdots]

/-- How deep a walk comes depends on how its start is spelled: it opens a directory below a path with
dots in front if all of them leave room for the names. -/
theorem inReach_dotted (hp : p.text.isEmpty = false) (hrelative : p.isAbsolute = false)
    (hlast : p.text.toList.getLast?.all (· == '/') = false) {names : List String}
    (hnames : ∀ name ∈ names, IsEntryName name) (name : String) (n : ℕ) :
    d.InReach (.dotted n p) (d.placeOf p ++ (names ++ [name])) ↔
      2 * n + p.text.utf8ByteSize + (names.map fun name => 1 + name.utf8ByteSize).sum ≤ maxPath := by
  rw [← placeOf_dotted hrelative n, inReach_append (by rw [Path.getLast?_dotted hp, hlast]) hnames,
    Path.utf8ByteSize_dotted]

/-- Dots lead nowhere. -/
theorem follow_dots (d : Disk) (place : Location) (n : ℕ) :
    d.follow (.present place .directory) (List.replicate n ".") =
      .ok (.present place .directory) := by
  induction n with
  | zero => rfl
  | succ n ih => rw [List.replicate_succ, follow, if_pos (.inr rfl), ih]

/-- A relative path with dots in front of it leads where it leads without them, unless it is too
long. -/
theorem locate_dotted (hp : p.text.isEmpty = false) (hrelative : p.isAbsolute = false) {n : ℕ}
    (hsize : 2 * n + p.text.utf8ByteSize ≤ maxPath) : d.locate (.dotted n p) = d.locate p := by
  have hlong : ¬maxPath < (Path.dotted n p).text.utf8ByteSize := by
    rw [Path.utf8ByteSize_dotted]
    omega
  have hshort : ¬maxPath < p.text.utf8ByteSize := by omega
  have horigin : d.origin (.dotted n p) = d.origin p := by
    rw [origin, origin, Path.isAbsolute_dotted hrelative, hrelative]
  rw [locate, locate, locateNames, locateNames,
    Path.contains_dotted (by decide) (by decide), Path.isEmpty_dotted hp, hp, if_neg hlong,
    if_neg hshort, horigin, Path.names_dotted, follow_append, origin, follow_dots]
  rfl

/-- Writing to a relative path with dots in front of it is writing to it, unless it is too long. -/
theorem write_dotted (hp : p.text.isEmpty = false) (hrelative : p.isAbsolute = false)
    (hlast : p.names.getLast? ≠ some "") {n : ℕ}
    (hsize : 2 * n + p.text.utf8ByteSize ≤ maxPath) (text : String) :
    d.write (.dotted n p) text = d.write p text := by
  have hnames : (Path.dotted n p).names.getLast? = p.names.getLast? := by
    have hne : p.names ≠ [] := Path.splitNames_ne_nil _ _
    rw [Path.names_dotted, List.getLast?_append_of_ne_nil _ hne]
  rw [write, write, hnames, if_neg hlast, if_neg hlast, locate_dotted hp hrelative hsize]

end Disk

end SchemaForge
