import SchemaForge.Proofs.Run.Completion

/-!
# Runs that succeed

Under the built-in templates, what a run is to make can always be generated, so it can only fail to
write. A run writes texts and nothing else (`WritesTexts`): no directory comes in the place of a
file, and what could be written before its first task can be written in its turn. So nothing fails
when that holds of every file that is not found at first (`CanSucceed.execute`). Neither the texts
nor what the run does have to be computed for this, only the paths of the plan and the disk before
the first task.
-/

namespace SchemaForge.Run

variable {s : Settings} {start : Moment} {set : SchemaSet} {d d' d'' : Disk} {x y : State}
  {t : Task} {done : List Task} {p : Progress}

/-! ## Writing texts -/

/-- Nothing but texts was written, and none in the place of a directory. -/
structure WritesTexts (d d' : Disk) : Prop where
  /-- Relative paths start at the same directory. -/
  workDir : d'.workDir = d.workDir
  /-- Whatever is not the same is a text now and was no directory. -/
  find? : ∀ place, d'.find? place = d.find? place ∨
    d.find? place ≠ some .directory ∧ ∃ text : String, d'.find? place = some (.file text.toUTF8)

namespace WritesTexts

/-- Nothing is written. -/
theorem refl (d : Disk) : WritesTexts d d := ⟨rfl, fun _ => .inl rfl⟩

/-- One more text is written. -/
theorem write (h : WritesTexts d d') {path : Path} {text : String}
    (hwrite : d'.write path text = .ok d'') : WritesTexts d d'' := by
  refine ⟨(Disk.workDir_write hwrite).trans h.workDir, fun place => ?_⟩
  rw [Disk.find?_write hwrite]
  split
  next hplace =>
    refine .inr ⟨fun hdirectory => ?_, text, rfl⟩
    -- What was a directory still is one, and no text can be written there.
    have hbefore := Disk.find?_ne_directory_of_write hwrite
    rw [← hplace] at hbefore
    rcases h.find? place with hsame | ⟨hother, -⟩
    · exact hbefore (hsame.trans hdirectory)
    · exact hother hdirectory
  next => exact h.find? place

/-- Nothing is gone. -/
theorem grows (h : WritesTexts d d') : d.Grows d' where
  workDir := h.workDir
  find? place hdirectory := by
    rcases h.find? place with hsame | ⟨hother, -⟩
    · exact hsame.trans hdirectory
    · exact absurd hdirectory hother
  isFile place hfile := by
    obtain ⟨content, hcontent⟩ := Disk.isFile_iff.mp hfile
    rcases h.find? place with hsame | ⟨-, text, htext⟩
    · exact Disk.isFile_iff.mpr ⟨content, hsame.trans hcontent⟩
    · exact Disk.isFile_iff.mpr ⟨_, htext⟩

/-- Where a text could be written, one can be written now. -/
theorem exists_write (h : WritesTexts d d') {path : Path} {text : String}
    (hwrite : d.write path text = .ok d'') (text' : String) :
    ∃ d₁, d'.write path text' = .ok d₁ := by
  refine h.grows.toKeepsDirectories.exists_write hwrite (fun hdirectory => ?_) text'
  rcases h.find? (d.placeOf path) with hsame | ⟨-, text, htext⟩
  · exact Disk.find?_ne_directory_of_write hwrite (hsame.symm.trans hdirectory)
  · cases htext.symm.trans hdirectory

/-- What exists now where a text could be written and nothing existed is a text. -/
theorem exists_read (h : WritesTexts d d') {path : Path} {text : String}
    (habsent : d.hasEntry path = false) (hwrite : d.write path text = .ok d'')
    (hentry : d'.hasEntry path = true) : ∃ text', d'.read path = .ok text' := by
  have hfree := Disk.find?_of_write_absent habsent hwrite
  obtain ⟨entry, hlocate⟩ := Disk.hasEntry_iff.mp hentry
  have htarget : d'.locate path = .ok (d'.targetAt (d.placeOf path)) :=
    h.grows.toKeepsDirectories.locate_of_write hwrite
  rcases h.find? (d.placeOf path) with hsame | ⟨-, text', htext⟩
  · rw [htarget, Disk.targetAt, hsame, hfree] at hlocate
    cases hlocate
  · rw [Disk.targetAt, htext] at htarget
    exact ⟨text', Disk.read_of_locate htarget⟩

/-- A text that is generated is saved where one could be written. -/
theorem save_ne_error (hreal : s.dryRun = false) (h : WritesTexts d d') {path : Path}
    {source : Except Error String} {text text' : String} (hsource : source = .ok text)
    (hwrite : d.write path text' = .ok d'') (e : Error) : save s d' path source ≠ .error e := by
  obtain ⟨d₁, hnow⟩ := h.exists_write hwrite text
  have hstore : store s d' path text = .ok d₁ := by simpa [store, hreal] using hnow
  rw [hsource]
  simp only [save, hstore]
  intro h
  cases h

end WritesTexts

/-! ## What can be made -/

/-- The built-in templates are the same on every disk. -/
theorem source_builtin (h : s.templatesDir = none) (d : Disk) :
    s.templates.source d = .builtin := by
  rw [Settings.templates, h]
  rfl

/-- The text of a task under the built-in templates is the same on every disk. -/
theorem textOf_builtin (h : s.templatesDir = none) (d d' : Disk) (t : Task) :
    textOf s d t = textOf s d' t := by
  cases t <;> simp only [textOf, source_builtin h]

/-- Every task has a text under the built-in templates, if no table has a token in its name. -/
theorem exists_textOf (h : s.templatesDir = none)
    (htables : ∀ pair ∈ pairs set, ¬Template.HasToken pair.2.name.toList)
    (ht : t ∈ Task.plan s set) (d : Disk) : ∃ text, textOf s d t = .ok text := by
  have hseeder : ∀ {dir className}, seederOf? s t = some (dir, className) → ∀ content,
      ∃ text, Seeder.classText .builtin className content = .ok text :=
    fun hclass content => ⟨_, Seeder.classText_eq_layout (plain_of_plan ht hclass) content⟩
  cases t with
  | announce message => exact ⟨message, rfl⟩
  | migration a schema =>
    have hpair : (a, schema) ∈ pairs set := by
      rw [← migrations_plan s set]
      exact List.mem_filterMap.mpr ⟨_, ht, rfl⟩
    rw [textOf, source_builtin h]
    exact ⟨_, Migration.classText_eq_layout a (htables _ hpair)⟩
  | seeder dir className content =>
    rw [textOf, source_builtin h]
    exact hseeder rfl content
  | databaseSeeder =>
    rw [textOf, source_builtin h]
    exact hseeder rfl _

/-- A task can make its file on a disk, after some number of attempts. -/
structure CanMake (s : Settings) (start : Moment) (d : Disk) (attempts : ℕ) (t : Task) : Prop where
  /-- It has a text. -/
  text : ∃ text, textOf s d t = .ok text
  /-- A text can be written at the path of its file. -/
  write : ∀ f, fileOf? s start attempts "" t = some f → ∃ d', d.write f.path "" = .ok d'

/-! ## Runs -/

/-- Making a seeder does not fail if it has a text and one could be written at its path at first. -/
theorem SeederStep.clean_of_text (hreal : s.dryRun = false) {dir : Path}
    {className content : String} (h : SeederStep s dir className content x y)
    (hwrites : WritesTexts d x.disk) (hx : Clean x)
    (hmakes : x.disk.hasEntry (Seeder.pathIn dir className) = false →
      (∃ text, Seeder.classText (s.templates.source x.disk) className content = .ok text) ∧
        ∃ d₁, d.write (Seeder.pathIn dir className) "" = .ok d₁) : Clean y := by
  cases h with
  | skipped hentry => exact hx
  | written d text hnone hsave => exact hx
  | failed e hnone hsave =>
    obtain ⟨⟨text, htext⟩, d₁, hd₁⟩ := hmakes hnone
    exact absurd hsave (hwrites.save_ne_error hreal htext hd₁ e)

/-- A step does not fail if its task could make its file at first. What the application's seeder
holds must be readable, so there must have been none. -/
theorem Step.clean_of_canMake (hreal : s.dryRun = false) (hbuiltin : s.templatesDir = none)
    (h : Step s start x t y) (hwrites : WritesTexts d x.disk) (hx : Clean x)
    (hmakes : finds s d t = false → CanMake s start d x.attempts t)
    (hdatabase : t = .databaseSeeder → finds s d t = false) : Clean y := by
  have htexts := textOf_builtin hbuiltin d x.disk t
  -- In each case of a failure the file is not found now, so it was not found at first, either, and
  -- could be made then; what the run has written since does not stand in its way.
  cases h with
  | announce message => exact hx
  | migrationSkipped a schema h => exact hx
  | migrationWritten a schema m d text h hm hsave => exact hx
  | migrationFailed a schema m e h hm hsave =>
    have hfinds : finds s x.disk (.migration a schema) = false := by simp [finds, h]
    obtain ⟨⟨text, htext⟩, hwrite⟩ := hmakes (not_finds_of_grows hwrites.grows hfinds)
    have hfile : fileOf? s start x.attempts "" (.migration a schema) =
        some ⟨migrationPath s m a schema.name, "", .migration⟩ := by
      rw [fileOf?, hm]
      rfl
    obtain ⟨d₁, hd₁⟩ := hwrite _ hfile
    dsimp only at hd₁
    rw [htexts, textOf] at htext
    exact absurd hsave (hwrites.save_ne_error hreal htext hd₁ e)
  | seeder _ dir className content h =>
    refine h.clean_of_text hreal hwrites hx fun hnone => ?_
    obtain ⟨⟨text, htext⟩, hwrite⟩ := hmakes (not_finds_of_grows hwrites.grows hnone)
    obtain ⟨d₁, hd₁⟩ := hwrite _ rfl
    rw [htexts, textOf] at htext
    exact ⟨⟨text, htext⟩, d₁, hd₁⟩
  | databaseMade _ habsent h =>
    refine h.clean_of_text hreal hwrites hx fun hnone => ?_
    obtain ⟨⟨text, htext⟩, hwrite⟩ := hmakes (not_finds_of_grows hwrites.grows hnone)
    obtain ⟨d₁, hd₁⟩ := hwrite _ rfl
    rw [htexts, textOf] at htext
    exact ⟨⟨text, htext⟩, d₁, hd₁⟩
  | databaseUnreadable fault hpresent h =>
    obtain ⟨d₁, hd₁⟩ := (hmakes (hdatabase rfl)).write _ rfl
    obtain ⟨text, hread⟩ := hwrites.exists_read (hdatabase rfl) hd₁ hpresent
    cases h.symm.trans hread
  | databaseCalls text hpresent h hpatch => exact hx
  | databaseLeft text hpresent h hpatch => exact hx
  | databasePatched text patched d hpresent h hpatch hstore => exact hx
  | databaseUnwritable text patched fault hpresent h hpatch hstore =>
    obtain ⟨d₁, hd₁⟩ := (hmakes (hdatabase rfl)).write _ rfl
    obtain ⟨d₂, hnow⟩ := hwrites.exists_write hd₁ patched
    rw [store, if_neg (by simp [hreal])] at hstore
    cases hstore.symm.trans hnow

/-- A real run under the built-in templates can make everything before its first task, on the disk
with its directories: they can be made, the calendar is long enough, no table has a token in its
name, the application has no seeder, and every file that is not found could be written. -/
structure CanSucceed (s : Settings) (start : Moment) (set : SchemaSet) (d d' : Disk) : Prop where
  /-- The run writes files. -/
  real : s.dryRun = false
  /-- The templates are the built-in ones. -/
  builtin : s.templatesDir = none
  /-- The directories can be made. -/
  directories : makeDirectories false d (directories s) = (d', .ok ())
  /-- There is a stamp for every pair. -/
  stamps : ∀ k < (pairs set).length, (start.after? k).isSome
  /-- No table has a token in its name. -/
  tables : ∀ pair ∈ pairs set, ¬Template.HasToken pair.2.name.toList
  /-- The application has no seeder. -/
  database : d'.hasEntry (databasePath s) = false
  /-- Every file that is not found could be written, however many migrations before it take a
  stamp. -/
  files : ∀ n < (Task.plan s set).length, ∀ t ∈ (Task.plan s set)[n]?, finds s d' t = false →
    ∀ k ≤ (((Task.plan s set).take n).filterMap migrationOf?).length,
      ∀ f ∈ fileOf? s start k "" t, (d'.write f.path "").isOk = true

namespace CanSucceed

/-- Every task in its turn can make its file before the first. -/
theorem canMake (h : CanSucceed s start set d d') (hplanned : done ++ [t] <+: Task.plan s set)
    (hfinds : finds s d' t = false) {k : ℕ} (hk : k ≤ (done.filterMap migrationOf?).length) :
    CanMake s start d' k t := by
  refine ⟨exists_textOf h.builtin h.tables (hplanned.subset (by simp)) _, fun f hf => ?_⟩
  obtain ⟨rest, hplan⟩ := hplanned
  rw [List.append_assoc] at hplan
  have hok := h.files done.length (by simp [← hplan]) t (by simp [← hplan]) hfinds k
    (by rwa [← hplan, List.take_left]) f hf
  match hwrite : d'.write f.path "" with
  | .ok d₁ => exact ⟨d₁, rfl⟩
  | .error fault => rw [hwrite] at hok; cases hok

/-- Nothing fails, and nothing but texts is written. -/
theorem reaches (h : CanSucceed s start set d d') (hreach : Reaches s start set d done p) :
    WritesTexts d' p.disk ∧ Clean (state p) := by
  refine Reaches.induction (motive := fun _ p => WritesTexts d' p.disk ∧ Clean (state p))
    (fun d₁ hmade => ?_) (fun done t p p' hbefore hplanned hperform ih => ?_) hreach
  · rw [h.real, h.directories] at hmade
    cases hmade
    exact ⟨.refl d', rfl, rfl⟩
  · obtain ⟨hwrites, hclean⟩ := ih
    have hstep := perform_step hperform
    refine ⟨?_, hstep.clean_of_canMake h.real h.builtin hwrites hclean
      (fun hfinds => h.canMake hplanned hfinds hbefore.attempts_le) fun hlast => ?_⟩
    · rcases (hstep.change h.real).write_or_eq with hsame | ⟨path, text, hwrite⟩
      · rwa [show p'.disk = p.disk from hsame]
      · exact hwrites.write hwrite
    · rw [hlast]
      exact h.database

/-- The run succeeds. -/
theorem execute (h : CanSucceed s start set d d') :
    ∃ p, Reaches s start set d (Task.plan s set) p ∧
      (Run.execute s start set d).ending = .finished p.summary ∧ p.summary.isSuccess = true := by
  have hmade := h.directories
  rw [← h.real] at hmade
  obtain ⟨p, hreach⟩ :=
    (stampsInRange_of_pairs h.stamps).exists_reaches hmade (List.prefix_refl (Task.plan s set))
  exact ⟨p, hreach, hreach.finished, isSuccess_iff_clean.mpr (h.reaches hreach).2⟩

end CanSucceed

end SchemaForge.Run
