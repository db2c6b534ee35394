import SchemaForge.Proofs.Migration.Layout
import SchemaForge.Proofs.Run.Change

/-!
# Templates during a run

Once its directories are made, a run writes nothing but files of code (`WritesCode`), and the name
of no template is one of those. So a class that a run generates is the one that the templates gave
before its first task (`WritesCode.classText`), however much the run has written in between.
-/

namespace SchemaForge

namespace Migration

open Template

variable {source source' : Source} {schema : Schema} {a : Action}

/-- The bodies of a migration depend on the wrapper of its action only. -/
theorem bodies_of_load {b : Bodies}
    (hload : ∀ text, source.load (wrapperName a) = .ok text →
      source'.load (wrapperName a) = .ok text)
    (h : bodies source schema a.keyword = .ok b) : bodies source' schema a.keyword = .ok b := by
  rw [bodies, resolve_keyword] at h ⊢
  cases hwrapper : source.load (wrapperName a) with
  | error e =>
    simp only [Source.wrapper, hwrapper, bind, Except.bind, Except.map] at h
    cases h
  | ok text =>
    simp only [Source.wrapper, hload text hwrapper, bind, Except.bind, Except.map]
    simpa only [Source.wrapper, hwrapper, bind, Except.bind, Except.map] using h

/-- A migration depends on the template of migrations and the wrapper of its action only. -/
theorem classText_of_load {text : String}
    (hload : ∀ name ∈ names, ∀ text, source.load name = .ok text → source'.load name = .ok text)
    (h : classText source schema a = .ok text) : classText source' schema a = .ok text := by
  have hwrapper : wrapperName a ∈ names := by cases a <;> decide
  have hmigration : migrationName ∈ names := by decide
  rw [classText] at h ⊢
  cases hbodies : bodies source schema a.keyword with
  | error e =>
    simp only [hbodies, bind, Except.bind] at h
    cases h
  | ok b =>
    have hbodies' := bodies_of_load (fun text => hload _ hwrapper text) hbodies
    cases htemplate : source.load migrationName with
    | error e =>
      simp only [hbodies, htemplate, bind, Except.bind] at h
      cases h
    | ok template =>
      have htemplate' := hload _ hmigration template htemplate
      simp only [hbodies', htemplate', bind, Except.bind]
      simpa only [hbodies, htemplate, bind, Except.bind] using h

end Migration

namespace Run

open Template

variable {s : Settings} {start : Moment} {set : SchemaSet} {d d' d'' : Disk}

/-- A name with the extension of generated files. -/
def IsCodeName (name : String) : Prop := ['.', 'p', 'h', 'p'] <:+ name.toList

/-- Whether a name is one of code can be read off its end. -/
instance (name : String) : Decidable (IsCodeName name) := inferInstanceAs (Decidable (_ <:+ _))

/-- One disk is another with files of code written. -/
structure WritesCode (d d' : Disk) : Prop where
  /-- Relative paths start at the same directory. -/
  workDir : d'.workDir = d.workDir
  /-- The directories are the same. -/
  directory : ∀ place, d'.find? place = some .directory ↔ d.find? place = some .directory
  /-- Everything with another name is the same. -/
  find? : ∀ place name, ¬IsCodeName name → d'.find? (place ++ [name]) = d.find? (place ++ [name])

/-- Nothing is written. -/
theorem WritesCode.refl (d : Disk) : WritesCode d d :=
  ⟨rfl, fun _ => Iff.rfl, fun _ _ _ => rfl⟩

/-- A file of code is written into a directory. -/
theorem WritesCode.write (h : WritesCode d d') {dir : Path} {name text : String}
    (hname : IsEntryName name) (hcode : IsCodeName name)
    (hwrite : d'.write (dir.join name) text = .ok d'') : WritesCode d d'' := by
  have hfind := Disk.find?_write hwrite
  have hdirectory := Disk.find?_ne_directory_of_write hwrite
  rw [Disk.placeOf_join _ _ hname] at hfind hdirectory
  refine ⟨(Disk.workDir_write hwrite).trans h.workDir, fun place => ?_,
    fun place other hother => ?_⟩
  · rw [← h.directory, hfind]
    split
    next hplace =>
      subst hplace
      simp [hdirectory]
    next => exact Iff.rfl
  · rw [← h.find? place other hother, hfind, if_neg]
    intro hplace
    obtain ⟨-, hsame⟩ := List.append_inj' hplace rfl
    obtain rfl : other = name := by simpa using hsame
    exact hother hcode

/-- A step writes code. -/
theorem WritesCode.change (hnames : PlainNames set) {x y : State} {t : Task}
    (ht : t ∈ Task.plan s set) (hchange : Change s start x t y) (h : WritesCode d x.disk) :
    WritesCode d y.disk := by
  cases hchange with
  | nothing hdisk => rwa [hdisk]
  | migration a schema m text hmigration hnone hm hattempts hwrite =>
    subst hmigration
    have hcode : IsCodeName (Migration.fileName m a schema.name) := by
      refine ⟨m.stamp ++ '_' :: (a.keyword.toList ++ '_' :: schema.name.toList), ?_⟩
      simp [Migration.fileName, Migration.suffix, codeExtension]
    exact h.write (isEntryName_of_plan hnames ht m) hcode hwrite
  | seeder dir className text hseeder hnone hwrite =>
    have hcode : IsCodeName (Seeder.fileName className) := by
      refine ⟨className.toList, ?_⟩
      simp [Seeder.fileName, codeExtension]
    exact h.write (Seeder.isEntryName_fileName (plain_of_plan ht hseeder)) hcode hwrite
  | patch text patched hdatabase hread hpatch hwrite =>
    have hname : IsEntryName (Seeder.fileName Seeder.databaseClass) :=
      Seeder.isEntryName_fileName Seeder.databaseClass_plain
    exact h.write hname ⟨Seeder.databaseClass.toList, by decide⟩ hwrite

/-- The file of a template has the name of an entry. -/
theorem isEntryName_template {name : String} (h : '/' ∉ name.toList) :
    IsEntryName (Template.fileName name) := by
  apply isEntryName_of_length
  · simp [Template.fileName, extension, h]
  · simp [Template.fileName, extension]

/-- The file of a template is not a file of code. -/
theorem not_isCodeName_template (name : String) : ¬IsCodeName (Template.fileName name) := by
  rintro ⟨front, hfront⟩
  have hlast := congrArg List.getLast? hfront
  simp [Template.fileName, extension] at hlast

/-- A template of a directory is loaded when its file is read. -/
theorem load_directory {root : Path} {name text : String} :
    (Source.directory d root).load name = .ok text ↔
      d.read (root.join (Template.fileName name)) = .ok text := by
  simp only [Source.directory, pathIn]
  split
  next hread => rw [hread, Except.ok.injEq, Except.ok.injEq]
  next hread => simp [hread]
  next hread => simp [hread]

/-- The file of a template that the program uses has the name of an entry. -/
theorem isEntryName_of_names {name : String} (h : name ∈ names) :
    IsEntryName (Template.fileName name) := by
  have hslash : ∀ name ∈ names, '/' ∉ name.toList := by decide
  exact isEntryName_template (hslash name h)

/-- The templates that are there after code is written were there before. -/
theorem WritesCode.load (h : WritesCode d d') (origin : Origin) {name text : String}
    (hname : name ∈ names) (hload : (origin.source d').load name = .ok text) :
    (origin.source d).load name = .ok text := by
  cases origin with
  | builtin => exact hload
  | directory root =>
    -- The argument goes back in time: the directories of the later disk are on the earlier one.
    have hkeeps : d'.KeepsDirectories d :=
      ⟨h.workDir.symm, fun place hplace => (h.directory place).mp hplace⟩
    have hsame := fun place => (h.find? place _ (not_isCodeName_template name)).symm
    exact load_directory.mpr
      (hkeeps.read_join (isEntryName_of_names hname) hsame (load_directory.mp hload))

/-- A migration that is generated after code is written is what it was before. -/
theorem WritesCode.classText (h : WritesCode d d') {schema : Schema} {a : Action} {text : String}
    (htext : Migration.classText (s.templates.source d') schema a = .ok text) :
    Migration.classText (s.templates.source d) schema a = .ok text :=
  Migration.classText_of_load (fun _ hname _ hload => h.load s.templates hname hload) htext

end Run

end SchemaForge
