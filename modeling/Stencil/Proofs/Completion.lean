import Stencil.Proofs.Batches
import Stencil.Proofs.Directories
import Stencil.Proofs.PlainData

/-!
# When a batch comes to its end

A template that fails is passed over, but two things stop a batch for good: a template that comes to an
index of too many digits, and an output whose place is that of a directory which another output, or the
batch itself, needs. With an output directory that is empty, and paths that are not too long, there is
nothing else for a context that is read (`renderTemplates_completes_iff`). A context with half of a
surrogate pair is not read: what is rendered with it may be a text that no file can hold, which is one
more way to stop a batch, and outside of what is said here.
-/

namespace Stencil

open Text Stencil.Tree

namespace Batch

variable {b : Batch} {d d' : Disk} {template target : Path} {templates : List Path}

/-! ## Outcomes that are errors -/

/-- The text of a file comes to an index of too many digits. -/
def MeetsLongIndex (b : Batch) (d : Disk) (template : Path) : Prop :=
  ∃ text, d.readText template = .ok text ∧ b.engine.MeetsLongIndex text b.context

theorem outcome_error_iff (hcontext : b.context.IsData) :
    (∃ error, (b.outcome d template).1 = .error error) ↔ b.MeetsLongIndex d template := by
  unfold outcome MeetsLongIndex
  cases d.readText template with
  | error e =>
      constructor
      · rintro ⟨error, h⟩
        cases h
      · rintro ⟨text, h, -⟩
        cases h
  | ok text =>
      have hrender := b.engine.renderOutcome_error_iff b.flags text hcontext
      refine hrender.trans ⟨fun h => ⟨text, rfl, h⟩, ?_⟩
      rintro ⟨found, hfound, h⟩
      cases hfound
      exact h

/-- The entry of a file is its outcome. -/
theorem outcome_of_entry {entry : Path × Outcome} (hfile : d.isFile template = .ok true)
    (h : b.Entry d template entry) :
    entry.1 = template ∧ (b.outcome d template).1 = .ok entry.2 := by
  obtain ⟨bytes, hbytes, hread⟩ := Disk.read_of_isFile hfile
  rw [outcome, Disk.readText, hread]
  cases h with
  | unreadable hthere hdecode =>
      cases hbytes.symm.trans hthere
      refine ⟨rfl, ?_⟩
      simp only [hdecode]
      rfl
  | rendered hthere hdecode hrender =>
      cases hbytes.symm.trans hthere
      refine ⟨rfl, ?_⟩
      simp only [hdecode]
      exact hrender

/-! ## Outputs in each other's way -/

/-- One of the files has an output, and this is its path. -/
def Yields (b : Batch) (d : Disk) (templates : List Path) (target : Path) : Prop :=
  ∃ t ∈ templates, d.regular t ∧ (∃ outcome, (b.outcome d t).1 = .ok outcome ∧ outcome.success)
    ∧ outputPath t b.input b.output = .ok target

/-- There has to be a directory at the place: it is that of the output directory or above an output. -/
def Needs (b : Batch) (d : Disk) (templates : List Path) (place : List String) : Prop :=
  place = d.place b.output
    ∨ ∃ above names, names ≠ [] ∧ b.Yields d templates (above.below names) ∧ place = d.place above

/-- No output is at a place where there has to be a directory. -/
def Unobstructed (b : Batch) (d : Disk) (templates : List Path) : Prop :=
  ∀ target, b.Yields d templates target →
    target.name ≠ ".." ∧ ¬b.Needs d templates (d.place target)

/-- A file is at the path, the last component of which is a name, and above it there are directories. -/
structure Stored (d : Disk) (target : Path) : Prop where
  name : target.name ≠ ".."
  file : ∃ bytes, d.tree.kind? (d.place target) = some (.file bytes)
  above (above : Path) (names : List String) : names ≠ [] → target = above.below names →
    d.tree.kind? (d.place above) = some .directory

theorem Stored.of_keeps (hk : d.Keeps d') (h : Stored d target) : Stored d' target where
  name := h.name
  file := by
    obtain ⟨bytes, hbytes⟩ := h.file
    rw [hk.place]
    exact hk.grows.file hbytes
  above above names hnames htarget := by
    rw [hk.place]
    exact hk.grows.directory (h.above above names hnames htarget)

theorem store_stored {text : String} (h : b.store d template text = (.ok (), d'))
    (htarget : outputPath template b.input b.output = .ok target) : Stored d' target := by
  obtain ⟨found, made, hfound, hadds, hwrite⟩ := store_ok h
  cases htarget.symm.trans hfound
  obtain ⟨hsets, hname⟩ := Disk.write_ok hwrite
  refine ⟨hname, ⟨encodeUtf8 text, ?_⟩, fun above names hnames htarget => ?_⟩
  · rw [hsets.keeps.place, hsets.after, if_pos rfl]
  · subst htarget
    rw [hsets.keeps.place]
    exact hsets.keeps.grows.directory (Disk.kind?_of_write hwrite hnames)

/-- A run that comes to its end has stored the output of each success. -/
theorem run_stored {throws : Bool} {s s' : BatchState}
    (h : b.run throws templates s = (.ok (), s')) :
    ∃ more, s'.results = s.results ++ more ∧ ∀ entry ∈ more, entry.2.success →
      ∀ target, outputPath entry.1 b.input b.output = .ok target → Stored s'.disk target := by
  induction templates generalizing s with
  | nil =>
      cases h
      exact ⟨[], (List.append_nil _).symm, nofun⟩
  | cons template rest ih =>
      rcases run_cons_ok h with ⟨-, h⟩ | ⟨-, outcome, s₁, hstep, h⟩
      · exact ih h
      · obtain ⟨-, hresults, hdisk⟩ := step_ok hstep
        have hfirst : outcome.success → ∀ target,
            outputPath template b.input b.output = .ok target → Stored s₁.disk target := by
          intro hsuccess target htarget
          rcases hdisk with ⟨-, hstore⟩ | ⟨hfailure, -⟩
          · exact store_stored hstore htarget
          · rw [hfailure] at hsuccess
            cases hsuccess
        split at h
        · cases h
          exact ⟨[(template, outcome)], hresults, by rwa [List.forall_mem_singleton]⟩
        · obtain ⟨more', -, hwrites⟩ := run_writes h
          obtain ⟨more, hmore, hstored⟩ := ih h
          refine ⟨(template, outcome) :: more, ?_, ?_⟩
          · rw [hmore, hresults, List.append_assoc]
            rfl
          · rw [List.forall_mem_cons]
            exact ⟨fun hsuccess target htarget =>
              (hfirst hsuccess target htarget).of_keeps hwrites.keeps, hstored⟩

/-- Outputs that are all stored are in nobody's way. -/
theorem unobstructed_of_stored (hk : d.Keeps d') (houtput : d.HasDirectory b.output)
    (h : ∀ target, b.Yields d templates target → Stored d' target) :
    b.Unobstructed d templates := by
  intro target htarget
  have hstored := h target htarget
  obtain ⟨bytes, hfile⟩ := hstored.file
  rw [hk.place] at hfile
  refine ⟨hstored.name, ?_⟩
  -- a file would be where a directory is
  have hneeded : ∀ place, b.Needs d templates place →
      d'.tree.kind? place = some .directory := by
    rintro place (rfl | ⟨above, names, hnames, hother, rfl⟩)
    · exact hk.grows.directory houtput.kind?
    · rw [← hk.place]
      exact (h _ hother).above above names hnames rfl
  intro hneeds
  cases (hneeded _ hneeds).symm.trans hfile

/-! ## Batches under way -/

/-- What a batch may have done on its way: only files at places of outputs have changed, and only
directories that have to be there are new. -/
structure Underway (b : Batch) (d : Disk) (templates : List Path) (d' : Disk) : Prop where
  keeps : d.Keeps d'
  files (place : List String) : d'.file? place = d.file? place
    ∨ ∃ target, b.Yields d templates target ∧ place = d.place target
  directories (place : List String) : d'.tree.kind? place = some .directory →
    d.tree.kind? place = some .directory ∨ b.Needs d templates place

theorem Underway.refl (b : Batch) (d : Disk) (templates : List Path) :
    b.Underway d templates d where
  keeps := .refl d
  files _ := .inl rfl
  directories _ h := .inl h

/-- Below an empty directory there is a file only at the place of an output. -/
theorem Underway.not_file (hunder : b.Underway d templates d')
    (hempty : d.HasEmptyDirectory b.output) (hfree : b.Unobstructed d templates)
    {place : List String} (hplace : d.place b.output <+: place) (hneeds : b.Needs d templates place)
    (bytes : List UInt8) : d'.tree.kind? place ≠ some (.file bytes) := by
  intro hfile
  rcases hunder.files place with hold | ⟨target, htarget, rfl⟩
  · rw [← Disk.file?_eq_some_iff, hold, Disk.file?_eq_some_iff] at hfile
    by_cases heq : place = d.place b.output
    · rw [heq, hempty.hasDirectory.kind?] at hfile
      cases hfile
    · rw [hempty.kind?_below hplace heq] at hfile
      cases hfile
  · exact (hfree target htarget).2 hneeds

section Storing

variable {xs : List String} {x : String}

/-- There have to be directories on the way to an output. -/
theorem Yields.needs (hyields : b.Yields d templates ((b.output.below xs).below [x]))
    {ys : List String} (hys : ys <+: xs) : b.Needs d templates (d.place (b.output.below ys)) := by
  obtain ⟨zs, rfl⟩ := hys
  refine .inr ⟨_, zs ++ [x], by simp, ?_, rfl⟩
  rw [Path.below_below, List.append_assoc] at hyields
  rwa [Path.below_below]

/-- The way to an output can be made. -/
theorem Underway.makeWay (hunder : b.Underway d templates d')
    (hempty : d.HasEmptyDirectory b.output) (hfree : b.Unobstructed d templates)
    (hxs : Path.staysInside 0 xs) (hyields : b.Yields d templates ((b.output.below xs).below [x]))
    (hfits : d.Fits (b.output.below xs)) :
    ∃ made, d'.ensureDirectories (b.output.below xs) true (b.output.below xs).parts.length
        = (.ok (), made)
      ∧ made.HasDirectory (b.output.below xs) ∧ b.Underway d templates made := by
  have hkeeps := hunder.keeps
  have hnotFile (ys : List String) (hys : ys <+: xs) (bytes : List UInt8) :
      d'.tree.kind? (d'.place (b.output.below ys)) ≠ some (.file bytes) := by
    rw [hkeeps.place]
    refine hunder.not_file hempty hfree ?_ (hyields.needs hys) bytes
    obtain ⟨zs, rfl⟩ := hys
    exact d.prefix_place_below _ (Path.staysInside_of_append hxs)
  obtain ⟨made, hmade, hthere, hmakes⟩ :=
    Disk.ensureDirectories_succeeds (b.output.below xs).parts.length (by simp [Path.below])
      (hempty.hasDirectory.of_keeps hkeeps) (hfits.of_keeps hkeeps) hnotFile
  refine ⟨made, hmade, hthere, hkeeps.trans hmakes.adds.keeps, fun place => ?_, fun place h => ?_⟩
  · rw [hmakes.adds.file?]
    exact hunder.files place
  · rcases hmakes.only place h with hold | ⟨ys, hys, rfl⟩
    · exact hunder.directories place hold
    · rw [hkeeps.place]
      exact .inr (hyields.needs hys)

/-- There is no directory at the place of an output. -/
theorem Underway.not_directory (hunder : b.Underway d templates d')
    (hempty : d.HasEmptyDirectory b.output) (hfree : b.Unobstructed d templates)
    (hxs : Path.staysInside 0 xs) (hyields : b.Yields d templates ((b.output.below xs).below [x])) :
    d'.tree.kind? (d'.place ((b.output.below xs).below [x])) ≠ some .directory := by
  obtain ⟨hname, hnotNeeded⟩ := hfree _ hyields
  rw [Path.name, Path.below, List.getLastD_concat] at hname
  intro hdirectory
  rw [hunder.keeps.place] at hdirectory
  rcases hunder.directories _ hdirectory with hold | hneeds
  · have hbelow : d.place b.output <+: d.place ((b.output.below xs).below [x]) := by
      rw [Path.below_below]
      exact d.prefix_place_below _ (Path.staysInside_concat hname hxs)
    rw [hempty.kind?_below hbelow fun heq => hnotNeeded (.inl heq)] at hold
    cases hold
  · exact hnotNeeded hneeds

theorem Underway.write (hunder : b.Underway d templates d')
    (hyields : b.Yields d templates target) {bytes : List UInt8} {d'' : Disk}
    (hwrite : d'.write target bytes = .ok d'') : b.Underway d templates d'' := by
  obtain ⟨hsets, -⟩ := Disk.write_ok hwrite
  refine ⟨hunder.keeps.trans hsets.keeps, fun place => ?_, fun place h => ?_⟩
  · rw [hsets.file?]
    split
    · next heq => exact .inr ⟨_, hyields, by rw [heq, hunder.keeps.place]⟩
    · exact hunder.files place
  · rw [hsets.after] at h
    split at h
    · cases h
    · exact hunder.directories place h

/-- An output below the output directory can be stored. -/
theorem Underway.store (hunder : b.Underway d templates d')
    (hempty : d.HasEmptyDirectory b.output) (hfree : b.Unobstructed d templates)
    (hxs : Path.staysInside 0 xs)
    (htarget : outputPath template b.input b.output = .ok ((b.output.below xs).below [x]))
    (hyields : b.Yields d templates ((b.output.below xs).below [x]))
    (hfits : d.Fits ((b.output.below xs).below [x])) (text : String) :
    ∃ d'', b.store d' template text = (.ok (), d'') ∧ b.Underway d templates d'' := by
  obtain ⟨made, hmade, hparent, hunder'⟩ :=
    hunder.makeWay hempty hfree hxs hyields hfits.of_below
  obtain ⟨d'', hwrite⟩ := Disk.write_succeeds hparent (hfits.of_keeps hunder'.keeps)
    (hunder'.not_directory hempty hfree hxs hyields) (encodeUtf8 text)
  refine ⟨d'', ?_, hunder'.write hyields hwrite⟩
  rw [Batch.store, htarget]
  simp only [Disk.parent_below, hmade, hwrite]
  rfl

end Storing

/-- A step whose text can be stored, if there is one, succeeds. -/
theorem Underway.step {s : BatchState} (hunder : b.Underway d templates s.disk) {outcome : Outcome}
    (houtcome : (b.outcome s.disk template).1 = .ok outcome)
    (hstore : outcome.success → ∃ disk, b.store s.disk template outcome.text = (.ok (), disk)
      ∧ b.Underway d templates disk) :
    ∃ s', b.step template s = (.ok outcome, s') ∧ b.Underway d templates s'.disk := by
  unfold Batch.step
  simp only
  rcases hresult : b.outcome s.disk template with ⟨result, log⟩
  rw [hresult] at houtcome
  cases houtcome
  simp only
  split
  · next hsuccess =>
      obtain ⟨disk, hdisk, hunder'⟩ := hstore hsuccess
      rw [hdisk]
      exact ⟨_, rfl, hunder'⟩
  · exact ⟨_, rfl, hunder⟩

/-- The paths of the files and those of their outputs fit. -/
def Fits (b : Batch) (d : Disk) (templates : List Path) : Prop :=
  ∀ t ∈ templates, d.Fits t
    ∧ ∀ target, outputPath t b.input b.output = .ok target → d.Fits target

/-- A way to an output has a last component, and what is before it stays inside. -/
theorem output_way {names last : List String} (hnames : Path.staysInside 0 names)
    (hlast : last.length ≤ 1) (hne : names.dropLast ++ last ≠ []) :
    ∃ xs x, names.dropLast ++ last = xs ++ [x] ∧ Path.staysInside 0 xs := by
  have hinside := Path.staysInside_dropLast hnames
  cases last with
  | nil =>
      rw [List.append_nil] at hne ⊢
      rcases List.eq_nil_or_concat names.dropLast with hnil | ⟨xs, x, hxs⟩
      · exact absurd hnil hne
      · rw [hxs, List.concat_eq_append] at hinside ⊢
        exact ⟨xs, x, rfl, Path.staysInside_of_append hinside⟩
  | cons x rest =>
      obtain rfl : rest = [] := List.length_eq_zero_iff.mp (by simpa using hlast)
      exact ⟨_, x, rfl, hinside⟩

/-- The files of a batch are found below the input directory, at no place of an output, and each has an
outcome. -/
structure Ready (b : Batch) (d : Disk) (templates : List Path) : Prop where
  selected (t : Path) : t ∈ templates → d.Found t ∧ ∃ names, t = b.input.below names ∧ "." ∉ names
    ∧ Path.staysInside 0 names
  clear (t : Path) : t ∈ templates → ∀ t' ∈ templates, b.target? d t' ≠ some (d.place t)
  outcomes (t : Path) : t ∈ templates → d.regular t → ∃ outcome, (b.outcome d t).1 = .ok outcome

/-- A file has the outcome that it had at the start. -/
theorem Underway.outcome (hunder : b.Underway d templates d') (hready : b.Ready d templates)
    (ht : template ∈ templates) (hfile : d.isFile template = .ok true) :
    (b.outcome d' template).1 = (b.outcome d template).1 := by
  have hfound := (hready.selected template ht).1
  have hbytes : d'.file? (d.place template) = d.file? (d.place template) := by
    refine (hunder.files _).resolve_right ?_
    rintro ⟨target, ⟨t', ht', -, -, htarget⟩, hplace⟩
    exact hready.clear template ht t' ht' (by rw [target?, htarget, hplace])
  rw [Batch.outcome, hunder.keeps.readText hfound hfile hbytes, ← Batch.outcome]

/-- The step for a file succeeds if no output is in the way. -/
theorem Underway.step_of_ready {s : BatchState} (hunder : b.Underway d templates s.disk)
    (hempty : d.HasEmptyDirectory b.output) (hfree : b.Unobstructed d templates)
    (hfits : b.Fits d templates) (hready : b.Ready d templates) (ht : template ∈ templates)
    (hfile : d.isFile template = .ok true) :
    ∃ outcome s', b.step template s = (.ok outcome, s') ∧ b.Underway d templates s'.disk := by
  have hregular : d.regular template := by rw [Disk.regular, hfile]
  obtain ⟨outcome, houtcome⟩ := hready.outcomes template ht hregular
  obtain ⟨-, names, hnames, hdot, hinside⟩ := hready.selected template ht
  obtain ⟨last, hlast, htarget⟩ := outputPath_below b.input b.output hdot
  rw [← hnames] at htarget
  obtain ⟨s', hstep, hunder'⟩ := hunder.step
      ((hunder.outcome hready ht hfile).trans houtcome) fun hsuccess => by
    have hyields : b.Yields d templates (b.output.below (names.dropLast ++ last)) :=
      ⟨template, ht, hregular, ⟨outcome, houtcome, hsuccess⟩, htarget⟩
    have hne : names.dropLast ++ last ≠ [] := by
      intro hnil
      rw [hnil, Path.below_nil] at hyields
      exact (hfree _ hyields).2 (.inl rfl)
    obtain ⟨xs, x, hway, hxs⟩ := output_way hinside hlast hne
    rw [hway, ← Path.below_below] at htarget hyields
    exact hunder.store hempty hfree hxs htarget hyields ((hfits template ht).2 _ htarget)
      outcome.text
  exact ⟨outcome, s', hstep, hunder'⟩

/-- A batch that is under way comes to its end if no output is in the way. -/
theorem Underway.run (hempty : d.HasEmptyDirectory b.output) (hfree : b.Unobstructed d templates)
    (hfits : b.Fits d templates) (hready : b.Ready d templates) {rest : List Path}
    (hrest : rest ⊆ templates) {s : BatchState} (hunder : b.Underway d templates s.disk) :
    (b.run false rest s).1 = .ok () := by
  induction rest generalizing s with
  | nil => rfl
  | cons t rest ih =>
      have ht : t ∈ templates := hrest List.mem_cons_self
      have hrest' : rest ⊆ templates := fun t ht => hrest (List.mem_cons_of_mem _ ht)
      obtain ⟨there, hfile⟩ := (hfits t ht).1.isFile
      have hfile' := (hunder.keeps.isFile (hready.selected t ht).1).trans hfile
      cases there with
      | false =>
          rw [run_cons_of_not_file hfile']
          exact ih hrest' hunder
      | true =>
          obtain ⟨outcome, s', hstep, hunder'⟩ :=
            hunder.step_of_ready hempty hfree hfits hready ht hfile
          rw [run_cons_of_step hfile' hstep]
          exact ih hrest' hunder'

/-- A batch that has come to its end has the outcome of each file. -/
theorem FileByFile.outcome {s : BatchState} (h : b.FileByFile d templates s) (ht : template ∈ templates)
    (hregular : d.regular template) :
    ∃ outcome, (b.outcome d template).1 = .ok outcome ∧ (template, outcome) ∈ s.results := by
  obtain ⟨entry, hmem, hentry⟩ :=
    forall₂_mem_left h.entries (List.mem_filter.mpr ⟨ht, hregular⟩)
  obtain ⟨rfl, houtcome⟩ := outcome_of_entry (Disk.isFile_of_regular hregular) hentry
  exact ⟨entry.2, houtcome, hmem⟩

end Batch

section

variable {flags : Flags} {options : BatchOptions} {input output : Path} {d : Disk} {b : Batch}
  {templates : List Path}

theorem prepare_parts (h : prepare flags options input output d = .ok (b, templates)) :
    b.input = input ∧ b.output = output ∧ b.context.IsData := by
  obtain ⟨o, context, pattern, -, hcontext, -, -, rfl⟩ := prepare_eq_ok_iff.mp h
  exact ⟨rfl, rfl, loadContext_isData hcontext⟩

/-- What a batch that has come to its end tells about its files. -/
theorem Batch.unobstructed_of_run (hd : d.tree.WellFormed) (hapart : d.Apart input output)
    (hinside : options.StaysInside)
    (hprepare : prepare flags options input output d = .ok (b, templates))
    (houtput : d.HasDirectory output) {s : BatchState}
    (h : b.run false templates { disk := d } = (.ok (), s)) :
    (∀ t ∈ templates, d.regular t → ¬b.MeetsLongIndex d t) ∧ b.Unobstructed d templates := by
  obtain ⟨-, rfl, hdata⟩ := prepare_parts hprepare
  have hfiles := fileByFile_of_run hd hapart hinside hprepare h
  constructor
  · intro t ht hregular hlong
    obtain ⟨outcome, houtcome, -⟩ := hfiles.outcome ht hregular
    obtain ⟨error, herror⟩ := (outcome_error_iff hdata).mpr hlong
    cases houtcome.symm.trans herror
  · obtain ⟨more, hmore, hstored⟩ := run_stored h
    obtain rfl : s.results = more := hmore
    refine unobstructed_of_stored hfiles.writes.keeps houtput ?_
    rintro target ⟨t, ht, hregular, ⟨outcome, houtcome, hsuccess⟩, htarget⟩
    obtain ⟨found, hfound, hmem⟩ := hfiles.outcome ht hregular
    cases houtcome.symm.trans hfound
    exact hstored _ hmem hsuccess target htarget

/-- Nothing else stops a batch that starts with an empty output directory. -/
theorem Batch.run_of_unobstructed (hd : d.tree.WellFormed) (hapart : d.Apart input output)
    (hinside : options.StaysInside)
    (hprepare : prepare flags options input output d = .ok (b, templates))
    (hempty : d.HasEmptyDirectory output) (hfits : b.Fits d templates)
    (hshort : ∀ t ∈ templates, d.regular t → ¬b.MeetsLongIndex d t)
    (hfree : b.Unobstructed d templates) :
    (b.run false templates { disk := d }).1 = .ok () := by
  obtain ⟨rfl, rfl, hdata⟩ := prepare_parts hprepare
  refine Underway.run hempty hfree hfits ⟨?_, ?_, ?_⟩ (List.Subset.refl templates)
    (.refl b d templates)
  · exact fun t ht => prepare_selected hd hinside hprepare ht
  · exact fun t ht t' ht' => prepare_clear hd hapart hinside hprepare ht ht'
  · intro t ht hregular
    cases houtcome : (b.outcome d t).1 with
    | ok outcome => exact ⟨outcome, rfl⟩
    | error error =>
        exact absurd ((outcome_error_iff hdata).mp ⟨error, houtcome⟩) (hshort t ht hregular)

end

/--
When a batch that does not raise errors comes to its end, with a context that is read, an output
directory that is empty, and paths that are not too long: if no file comes to an index of too many
digits and no output is where there has to be a directory. It then has an entry for each file. That
the context is read (`hprepare`) leaves out those with half of a surrogate pair, see `Json.read`; the
texts of all others are texts that a file can hold.
-/
theorem renderTemplates_completes_iff (flags : Flags) (options : BatchOptions) (input output : Path)
    (d : Disk) (b : Batch) (templates : List Path) (hd : d.tree.WellFormed)
    (hapart : d.Apart input output) (hinside : options.StaysInside)
    (hprepare : prepare flags options input output d = .ok (b, templates))
    (hempty : d.HasEmptyDirectory output) (hfits : b.Fits d templates) :
    let whole := renderTemplates flags { options with throws := false } input output d
    (whole.1 = .ok ()
        ↔ (∀ t ∈ templates, d.regular t → ¬b.MeetsLongIndex d t) ∧ b.Unobstructed d templates)
      ∧ (whole.1 = .ok () → b.FileByFile d templates whole.2) := by
  intro whole
  have hwhole : whole = b.run false templates { disk := d } :=
    renderTemplates_of_prepare false hprepare
  have hend (hrun : whole.1 = .ok ()) :
      b.run false templates { disk := d } = (.ok (), whole.2) := by
    rw [← hwhole, Prod.ext_iff]
    exact ⟨hrun, rfl⟩
  refine ⟨⟨fun hrun => ?_, fun ⟨hshort, hfree⟩ => ?_⟩, fun hrun => ?_⟩
  · exact Batch.unobstructed_of_run hd hapart hinside hprepare hempty.hasDirectory (hend hrun)
  · rw [hwhole]
    exact Batch.run_of_unobstructed hd hapart hinside hprepare hempty hfits hshort hfree
  · exact Batch.fileByFile_of_run hd hapart hinside hprepare (hend hrun)

theorem Disk.sample_empty : Disk.sample.HasEmptyDirectory ⟨"/", ["o"]⟩ :=
  ⟨⟨.directory [], [("o", Disk.sample.tree)]⟩, rfl, rfl⟩

theorem Batch.sample_fits :
    Batch.sample.Fits Disk.sample [⟨"/", ["i", "x"]⟩, ⟨"/", ["i", "x.tmpl"]⟩] := by
  have htarget : Disk.sample.Fits ⟨"/", ["o", "x"]⟩ := ⟨by decide, by decide, by decide⟩
  have hplain : outputPath ⟨"/", ["i", "x"]⟩ Batch.sample.input Batch.sample.output
      = .ok ⟨"/", ["o", "x"]⟩ := rfl
  have hsuffix : outputPath ⟨"/", ["i", "x.tmpl"]⟩ Batch.sample.input Batch.sample.output
      = .ok ⟨"/", ["o", "x"]⟩ := rfl
  intro t ht
  rcases List.mem_pair.mp ht with rfl | rfl
  · refine ⟨⟨by decide, by decide, by decide⟩, fun target h => ?_⟩
    cases hplain.symm.trans h
    exact htarget
  · refine ⟨⟨by decide, by decide, by decide⟩, fun target h => ?_⟩
    cases hsuffix.symm.trans h
    exact htarget

/-- A batch in which one of two files fails comes to its end. -/
theorem renderTemplates_completes_iff_sample :
    let options : BatchOptions := { pattern := some "x*" }
    let input : Path := ⟨"/", ["i"]⟩
    let output : Path := ⟨"/", ["o"]⟩
    let templates : List Path := [⟨"/", ["i", "x"]⟩, ⟨"/", ["i", "x.tmpl"]⟩]
    let whole := renderTemplates {} { options with throws := false } input output Disk.sample
    Disk.sample.tree.WellFormed ∧ Disk.sample.Apart input output ∧ options.StaysInside
      ∧ prepare {} options input output Disk.sample = .ok (Batch.sample, templates)
      ∧ Disk.sample.HasEmptyDirectory output ∧ Batch.sample.Fits Disk.sample templates
      ∧ whole.1 = .ok () ∧ Batch.sample.Unobstructed Disk.sample templates
      ∧ Batch.sample.FileByFile Disk.sample templates whole.2 := by
  intro options input output templates whole
  have hpattern : Glob.Pattern.ofText? options.pattern
      = .ok ⟨[.wild [.char 'x', .star]], false⟩ := rfl
  have hinside : options.StaysInside := by
    intro pattern h
    cases hpattern.symm.trans h
    rfl
  have hprepare : prepare {} options input output Disk.sample = .ok (Batch.sample, templates) :=
    prepare_sample rfl hpattern rfl (.refl _) (by decide)
  have hrun : whole.1 = .ok () := by
    rw [show whole = _ from renderTemplates_of_prepare false hprepare]
    exact toOption_eq_some_iff.mp (by decide +kernel)
  obtain ⟨hcompletes, hfiles⟩ := renderTemplates_completes_iff {} options input output Disk.sample
    Batch.sample templates Disk.sample_wellFormed Disk.sample_apart hinside hprepare
    Disk.sample_empty Batch.sample_fits
  exact ⟨Disk.sample_wellFormed, Disk.sample_apart, hinside, hprepare, Disk.sample_empty,
    Batch.sample_fits, hrun, (hcompletes.mp hrun).2, hfiles hrun⟩

/-- An input directory in which the output of one template has the name of a directory, and one more
template behind it. -/
def Disk.obstructed : Disk where
  tree := .directory [
    ("i", .directory [("x", .directory [("y.tmpl", .file (encodeUtf8 "inner"))]),
      ("x.tmpl", .file (encodeUtf8 "outer")), ("z.tmpl", .file (encodeUtf8 "last"))]),
    ("o", .directory [])]

/-- What the system says of a file that stops a batch. -/
def fileMessage? : Except BatchError Unit → Option String
  | .error (.file e) => some e.message
  | _ => none

theorem exists_of_fileMessage? {result : Except BatchError Unit} {message : String}
    (h : fileMessage? result = some message) :
    ∃ e, result = .error (.file e) ∧ e.message = message := by
  unfold fileMessage? at h
  split at h
  · next e => exact ⟨e, rfl, Option.some.inj h⟩
  · cases h

/-- The second of three files has its output where the first one needs a directory. It stops the batch,
and the third has no entry. -/
theorem renderTemplates_stops_obstructed :
    let options : BatchOptions := {}
    let input : Path := ⟨"/", ["i"]⟩
    let output : Path := ⟨"/", ["o"]⟩
    let templates : List Path :=
      [⟨"/", ["i", "x", "y.tmpl"]⟩, ⟨"/", ["i", "x.tmpl"]⟩, ⟨"/", ["i", "z.tmpl"]⟩]
    let whole := renderTemplates {} { options with throws := false } input output Disk.obstructed
    Disk.obstructed.Apart input output ∧ Disk.obstructed.HasEmptyDirectory output
      ∧ prepare {} options input output Disk.obstructed = .ok (Batch.sample, templates)
      ∧ (∀ t ∈ templates, Disk.obstructed.regular t)
      ∧ (∃ e, whole.1 = .error (.file e) ∧ e.message = "[Errno 21] Is a directory: '/o/x'")
      ∧ ⟨"/", ["i", "z.tmpl"]⟩ ∉ whole.2.results.map (·.1) := by
  intro options input output templates whole
  have hempty : Disk.obstructed.HasEmptyDirectory ⟨"/", ["o"]⟩ :=
    ⟨⟨.directory [], [("o", Disk.obstructed.tree)]⟩, rfl, rfl⟩
  have hpattern : Glob.Pattern.ofText? options.pattern
      = .ok ⟨[.anyDepth, .wild [.star, .char '.', .char 't', .char 'm', .char 'p', .char 'l']],
          false⟩ := rfl
  have hselect : Glob.select Disk.obstructed false
      [.anyDepth, .wild [.star, .char '.', .char 't', .char 'm', .char 'p', .char 'l']]
      ⟨"/", ["i"]⟩ = .ok [⟨"/", ["i", "x.tmpl"]⟩, ⟨"/", ["i", "z.tmpl"]⟩,
        ⟨"/", ["i", "x", "y.tmpl"]⟩] := rfl
  have hprepare : prepare {} options input output Disk.obstructed
      = .ok (Batch.sample, templates) :=
    prepare_sample rfl hpattern hselect (by decide) (by decide)
  rw [show whole = _ from renderTemplates_of_prepare false hprepare]
  refine ⟨⟨by decide, by decide⟩, hempty, hprepare, by decide +kernel, ?_, by decide +kernel⟩
  have hmessage : fileMessage? (Batch.sample.run false templates { disk := Disk.obstructed }).1
      = some "[Errno 21] Is a directory: '/o/x'" := by
    decide +kernel
  exact exists_of_fileMessage? hmessage

end Stencil
