import SchemaForge.Proofs.Storage.Before

/-!
# Where directories are made

Making the directory at a path also makes those above it that are missing. All of them lie on the
way of the path: the first names of the path lead there (`OnWay`). So nothing changes anywhere else,
whether or not the directories can be made (`find?_makeDirs`). A path that goes up can lead through
locations that are not above its own; one that never does cannot (`OnWay.isPrefix`).
-/

namespace SchemaForge

namespace Path

/-! ## The text of the path above -/

/-- What is dropped from the end of a text goes up to a slash, and it is not nothing if the text has
a slash at its end. -/
theorem exists_dropTrailing (text : List Char) :
    ∃ dropped, text = dropped ++ dropTrailing text ∧
      (dropped = [] ∧ text.head? ≠ some '/' ∨ dropped.getLast? = some '/') := by
  fun_induction dropTrailing text with
  | case1 => exact ⟨[], rfl, .inl ⟨rfl, nofun⟩⟩
  | case2 rest ih =>
    obtain ⟨dropped, htext, hdropped⟩ := ih
    refine ⟨'/' :: dropped, congrArg _ htext, .inr ?_⟩
    rcases hdropped with ⟨rfl, -⟩ | hlast
    · rfl
    · rw [List.getLast?_cons, hlast]
      rfl
  | case3 rest ih =>
    obtain ⟨dropped, htext, hdropped⟩ := ih
    refine ⟨'.' :: dropped, congrArg _ htext, .inr ?_⟩
    -- The slash after the dot is dropped, too.
    rcases hdropped with ⟨-, hhead⟩ | hlast
    · exact absurd rfl hhead
    · rw [List.getLast?_cons, hlast]
      rfl
  | case4 text hempty hslash hdot =>
    refine ⟨[], rfl, .inl ⟨rfl, fun hhead => ?_⟩⟩
    obtain ⟨rest, rfl⟩ := List.head?_eq_some_iff.mp hhead
    exact hslash rest rfl

/-- What is left in front of the last name, if anything, has a slash after it. -/
theorem exists_front {text front : List Char}
    (h : dropTrailing ((dropTrailing text).dropWhile (· != '/')) = front) (hne : front ≠ []) :
    ∃ back, text.reverse = front.reverse ++ '/' :: back := by
  obtain ⟨trailing, htext, -⟩ := exists_dropTrailing text
  obtain ⟨dropped, hname, hdropped⟩ :=
    exists_dropTrailing ((dropTrailing text).dropWhile (· != '/'))
  rw [h] at hname
  rcases hdropped with ⟨rfl, hhead⟩ | hlast
  · -- What follows a name starts with a slash.
    rw [List.nil_append] at hname
    obtain ⟨c, rest, hfront⟩ := List.exists_cons_of_ne_nil hne
    have hc := List.head?_dropWhile_not (· != '/') (dropTrailing text)
    rw [hname, hfront] at hhead hc
    simp only [List.head?_cons, bne_eq_false_iff_eq] at hc
    exact absurd (congrArg some hc) hhead
  · obtain ⟨before, rfl⟩ := List.getLast?_eq_some_iff.mp hlast
    have hparts := List.takeWhile_append_dropWhile (p := (· != '/')) (l := dropTrailing text)
    rw [hname] at hparts
    have hall := congrArg List.reverse (htext.trans (congrArg (trailing ++ ·) hparts.symm))
    simp only [List.reverse_append, List.reverse_cons, List.append_assoc, List.nil_append,
      List.cons_append] at hall
    exact ⟨_, hall⟩

/-- The text of a path is what cannot be dropped in front of it and a text from whose end something
is dropped. -/
theorem exists_body (p : Path) : ∃ front text, p.body = (front, dropTrailing text) ∧
    (front = ['/'] ∧ p.text.toList = text.reverse ∧ p.text.toList.head? = some '/' ∨
      front = ['.'] ∧ p.text.toList = '.' :: text.reverse ∧
        (text = [] ∨ text.reverse.head? = some '/') ∨
      front = [] ∧ p.text.toList = text.reverse ∧ p.isAbsolute = false) := by
  unfold body
  split
  next rest htext =>
    refine ⟨['/'], rest.reverse ++ ['/'], rfl, .inl ⟨rfl, ?_, ?_⟩⟩
    · simpa using htext
    · rw [htext]
      rfl
  next htext => exact ⟨['.'], [], rfl, .inr (.inl ⟨rfl, htext, .inl rfl⟩)⟩
  next rest htext =>
    refine ⟨['.'], rest.reverse ++ ['/'], rfl, .inr (.inl ⟨rfl, ?_, .inr ?_⟩)⟩
    · simpa using htext
    · simp
  next hslash hdot hdotSlash =>
    refine ⟨[], p.text.toList.reverse, rfl, .inr (.inr ⟨rfl, by simp, ?_⟩)⟩
    rw [isAbsolute, beq_eq_false_iff_ne]
    intro hhead
    obtain ⟨rest, hrest⟩ := List.head?_eq_some_iff.mp hhead
    exact hslash rest hrest

/-- The path above a path is empty, or its text is the part of the path's text before one of the
slashes, with that slash or without it. -/
theorem text_of_parent? {p above : Path} (h : p.parent? = some above) :
    above.text.toList = [] ∧ p.isAbsolute = false ∨
    ∃ front back, p.text.toList = front ++ '/' :: back ∧
      (above.text.toList = front ∧ front ≠ [] ∨ above.text.toList = front ++ ['/']) := by
  obtain ⟨front, text, hbody, hfront⟩ := p.exists_body
  have hdot : p.text.toList.head? = some '.' → p.isAbsolute = false := by
    intro hhead
    rw [isAbsolute, hhead]
    rfl
  rw [parent?, hbody] at h
  dsimp only at h
  generalize hrest : dropTrailing ((dropTrailing text).dropWhile (· != '/')) = rest at h
  split at h
  · -- A dot alone lies in the empty path.
    split at h
    next hempty hfrontDot =>
      cases h
      rcases hfront with ⟨rfl, -, -⟩ | ⟨rfl, htext, -⟩ | ⟨rfl, -, -⟩
      · cases hfrontDot
      · exact .inl ⟨rfl, hdot (by rw [htext]; rfl)⟩
      · cases hfrontDot
    next => cases h
  · cases h
    simp only [String.toList_ofList]
    by_cases hne : rest = []
    · rw [if_neg (by simp [hne]), if_pos hne]
      rcases hfront with ⟨rfl, -, hhead⟩ | ⟨rfl, htext, hslash⟩ | ⟨rfl, -, hrelative⟩
      · obtain ⟨back, hback⟩ := List.head?_eq_some_iff.mp hhead
        exact .inr ⟨[], back, hback, .inr rfl⟩
      · rcases hslash with rfl | hslash
        · exact absurd rfl ‹¬dropTrailing [] = []›
        · obtain ⟨back, hback⟩ := List.head?_eq_some_iff.mp hslash
          exact .inr ⟨['.'], back, by rw [htext, hback]; rfl, .inl ⟨rfl, List.cons_ne_nil _ _⟩⟩
      · exact .inl ⟨rfl, hrelative⟩
    · obtain ⟨back, hback⟩ := exists_front hrest hne
      have hreverse : rest.reverse ≠ [] := by simpa using hne
      rcases hfront with ⟨rfl, htext, -⟩ | ⟨rfl, htext, -⟩ | ⟨rfl, htext, -⟩
      · rw [if_pos ⟨rfl, hne⟩]
        exact .inr ⟨rest.reverse, back, htext.trans hback, .inl ⟨rfl, hreverse⟩⟩
      · rw [if_neg (by simp), if_neg hne]
        have hall : p.text.toList = '.' :: rest.reverse ++ '/' :: back := by rw [htext, hback]; rfl
        exact .inr ⟨'.' :: rest.reverse, back, hall, .inl ⟨rfl, List.cons_ne_nil _ _⟩⟩
      · rw [if_neg (by simp), if_neg hne]
        exact .inr ⟨rest.reverse, back, htext.trans hback, .inl ⟨rfl, hreverse⟩⟩

end Path

/-! ## The way of a path -/

namespace Disk

variable {d d' : Disk} {p : Path} {place : Location}

/-- A location is on the way of a path: the first names of the path lead there. -/
def OnWay (d : Disk) (p : Path) (place : Location) : Prop :=
  ∃ front, front <+: p.names ∧
    place = front.foldl Location.enter (if p.isAbsolute then [] else d.workDir)

/-- The way of a path depends on the working directory only. -/
theorem onWay_congr (h : d'.workDir = d.workDir) : d'.OnWay p place ↔ d.OnWay p place := by
  rw [OnWay, OnWay, h]

/-- The way of a path that never goes up stays above its location. -/
theorem OnWay.isPrefix (h : d.OnWay p place) (hup : ".." ∉ p.names) : place <+: d.placeOf p := by
  obtain ⟨front, ⟨rest, hnames⟩, rfl⟩ := h
  rw [placeOf, ← hnames, List.foldl_append]
  apply prefix_foldl_enter
  intro hrest
  exact hup (by rw [← hnames]; exact List.mem_append_right _ hrest)

/-- The way of an entry of a directory is that of the directory and the location of the entry. -/
theorem onWay_join {dir : Path} {name : String} (hname : IsEntryName name)
    (h : d.OnWay (dir.join name) place) : d.OnWay dir place ∨ place = d.placeOf dir ++ [name] := by
  obtain ⟨front, hfront, hplace⟩ := h
  obtain ⟨names, hnames, hdir⟩ := dir.names_join hname.noSlash
  rw [hnames] at hfront
  rcases List.prefix_concat_iff.mp hfront with hall | hearlier
  · right
    rw [hplace, hall, ← hnames, ← placeOf_join d dir hname]
    rfl
  · left
    refine ⟨front, ?_, by rw [hplace, dir.isAbsolute_join hname.noSlash]⟩
    rcases hdir with hdir | hdir
    · rwa [hdir]
    · rw [hdir]
      exact hearlier.trans (List.prefix_append names [""])

/-- The way of the path above a path is a part of the path's own. -/
theorem onWay_of_parent? {above : Path} (habove : p.parent? = some above)
    (h : d.OnWay above place) : d.OnWay p place := by
  obtain ⟨names, hnames, hplace⟩ := h
  rcases Path.text_of_parent? habove with ⟨hempty, hrelative⟩ | ⟨front, back, htext, hfront⟩
  · -- The empty path leads nowhere else than to the working directory.
    refine ⟨[], List.nil_prefix, ?_⟩
    have habsolute : above.isAbsolute = false := by rw [Path.isAbsolute, hempty]; rfl
    have hall : above.names = [""] := by rw [Path.names, hempty]; rfl
    rw [hall] at hnames
    rw [hplace, habsolute, hrelative]
    rcases List.prefix_cons_iff.mp hnames with rfl | ⟨rest, rfl, hrest⟩
    · rfl
    · rw [List.prefix_nil.mp hrest]
      rfl
  · have hpathNames : p.names = Path.splitNames [] front ++ Path.splitNames [] back := by
      rw [Path.names, htext, Path.splitNames_append]
    have hbefore : ∀ names, names <+: Path.splitNames [] front → names <+: p.names := by
      intro names hprefix
      rw [hpathNames]
      exact hprefix.trans (List.prefix_append _ _)
    rcases hfront with ⟨habove, hne⟩ | habove
    · have habsolute : above.isAbsolute = p.isAbsolute := by
        obtain ⟨c, rest, rfl⟩ := List.exists_cons_of_ne_nil hne
        rw [Path.isAbsolute, Path.isAbsolute, habove, htext]
        rfl
      rw [Path.names, habove] at hnames
      exact ⟨names, hbefore names hnames, by rw [hplace, habsolute]⟩
    · have habsolute : above.isAbsolute = p.isAbsolute := by
        rw [Path.isAbsolute, Path.isAbsolute, habove, htext]
        cases front <;> rfl
      rw [Path.names, habove, Path.splitNames_append] at hnames
      rcases List.prefix_concat_iff.mp hnames with hall | hearlier
      · -- The empty name after the slash leads nowhere.
        refine ⟨_, hbefore _ List.prefix_rfl, ?_⟩
        rw [hplace, hall, habsolute, List.foldl_append]
        rfl
      · exact ⟨names, hbefore names hearlier, by rw [hplace, habsolute]⟩

/-- The way of every path above a path is a part of the path's own. -/
theorem onWay_of_ancestors {fuel : ℕ} {above : Path} (habove : above ∈ Disk.ancestors fuel p)
    (h : d.OnWay above place) : d.OnWay p place := by
  induction fuel generalizing p with
  | zero =>
    rw [ancestors, List.mem_singleton] at habove
    rwa [← habove]
  | succ fuel ih =>
    rw [ancestors] at habove
    split at habove
    next parent hparent =>
      rcases List.mem_cons.mp habove with rfl | habove
      · exact h
      · exact onWay_of_parent? hparent (ih habove)
    next =>
      rw [List.mem_singleton] at habove
      rwa [← habove]

/-! ## Making directories -/

/-- Making a directory changes nothing that is not on its way. -/
theorem find?_makeDir (hmake : d.makeDir p = .ok d') (h : ¬d.OnWay p place) :
    d'.find? place = d.find? place := by
  obtain ⟨made, hlocate, rfl⟩ := makeDir_ok hmake
  obtain ⟨-, hfollow⟩ := locateNames_ok hlocate
  obtain ⟨blanks, hnames, -⟩ := exists_names_eq p
  have hne : place ≠ made := by
    rintro rfl
    exact h ⟨trimmedNames p, ⟨blanks, hnames.symm⟩, follow_place hfollow⟩
  rw [find?_put (hasRoom_of_vacant hlocate), if_neg hne]

/-- Making several directories changes nothing that is on none of their ways, also if it fails. -/
theorem find?_makeChain {chain : List Path} (h : ∀ p ∈ chain, ¬d.OnWay p place) :
    (d.makeChain chain).1.find? place = d.find? place := by
  fun_induction makeChain d chain with
  | case1 => rfl
  | case2 => rfl
  | case3 p above hp d' hmake => exact find?_makeDir hmake (h p (by simp))
  | case4 p above hp hmake d' fault habove ih =>
    rw [habove] at ih
    exact ih fun q hq => h q (List.mem_cons_of_mem p hq)
  | case5 p above hp hmake d' habove d'' hmade ih =>
    have hadds := addsDirectories_makeChain d above
    rw [habove] at ih hadds
    have hway : ¬d'.OnWay p place := fun hway => h p (by simp) ((onWay_congr hadds.workDir).mp hway)
    rw [find?_makeDir hmade hway]
    exact ih fun q hq => h q (List.mem_cons_of_mem p hq)
  | case6 p above hp hmake d' habove fault hmade ih =>
    rw [habove] at ih
    exact ih fun q hq => h q (List.mem_cons_of_mem p hq)
  | case7 => rfl

/-- Making a directory and those above it changes nothing that is not on its way, also if it
fails. -/
theorem find?_makeDirs (h : ¬d.OnWay p place) : (d.makeDirs p).1.find? place = d.find? place :=
  find?_makeChain fun _ habove hway => h (onWay_of_ancestors habove hway)

end Disk

end SchemaForge
