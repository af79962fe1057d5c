import Stencil.Batch
import Stencil.Proofs.Compilation
import Stencil.Proofs.Selection

/-!
# Batches file by file

A batch is a map over the files that its pattern selects: each file has the outcome of its own text,
whatever the others hold, and the successful ones are written, one after the other
(`renderTemplates_fileByFile`). The invariant that carries this through the loop is that the batch
writes nothing but the places of the outputs (`Batch.Writes`), while a file that is yet to be read is at
none of them. With the option to raise errors a batch is the part of this one up to its first failure
(`Batch.run_throws`).
-/

namespace Stencil

open Text Stencil.Tree

/-! ## Where outputs go -/

namespace Path

theorem staysInside_of_append {depth : Nat} {xs ys : List String}
    (h : staysInside depth (xs ++ ys)) : staysInside depth xs := by
  induction xs generalizing depth with
  | nil => rfl
  | cons x xs ih =>
      rw [List.cons_append] at h
      simp only [staysInside] at h ⊢
      split at h
      · next hup =>
          rw [if_pos hup]
          rw [Bool.and_eq_true] at h ⊢
          exact ⟨h.1, ih h.2⟩
      · next hup =>
          rw [if_neg hup]
          exact ih h

theorem staysInside_dropLast {depth : Nat} {names : List String} (h : staysInside depth names) :
    staysInside depth names.dropLast := by
  rcases List.eq_nil_or_concat names with rfl | ⟨xs, x, rfl⟩
  · exact h
  · rw [List.concat_eq_append] at h ⊢
    rw [List.dropLast_concat]
    exact staysInside_of_append h

theorem relativeTo_below (p : Path) (names : List String) :
    (p.below names).relativeTo p = .ok ⟨"", names⟩ := by
  rw [relativeTo, below, if_pos (by simp), List.drop_left]

theorem join_below (p : Path) (names : List String) :
    p.join ⟨"", names⟩ = p.below (names.filter (· ≠ ".")) := rfl

theorem filter_ne_dot {names : List String} (h : "." ∉ names) : names.filter (· ≠ ".") = names :=
  List.filter_eq_self.mpr fun name hname => by simpa using ne_of_mem_of_not_mem hname h

theorem join_below_of_not_mem (p : Path) {names : List String} (h : "." ∉ names) :
    p.join ⟨"", names⟩ = p.below names := by
  rw [join_below, filter_ne_dot h]

end Path

/-- An output is where its template is, but for the last component. -/
theorem outputPath_below (input output : Path) {names : List String} (hdot : "." ∉ names) :
    ∃ last : List String, last.length ≤ 1
      ∧ outputPath (input.below names) input output = .ok (output.below (names.dropLast ++ last)) := by
  unfold outputPath
  rw [Path.relativeTo_below]
  change ∃ last : List String, last.length ≤ 1 ∧ Except.ok (output.join _) = _
  split
  · refine ⟨[String.ofList (Path.splitSuffix (Path.mk "" names).name.toList).1].filter (· ≠ "."),
      List.length_filter_le _ _, ?_⟩
    rw [Path.dropSuffix, Path.join_below, List.filter_append,
      Path.filter_ne_dot fun h => hdot (List.dropLast_subset _ h)]
  · rw [Path.join_below_of_not_mem _ hdot]
    rcases List.eq_nil_or_concat names with rfl | ⟨xs, x, rfl⟩
    · exact ⟨[], Nat.zero_le 1, rfl⟩
    · refine ⟨[x], Nat.le_refl 1, ?_⟩
      rw [List.concat_eq_append, List.dropLast_concat]

namespace Disk

variable {d d' d'' : Disk}

/-- Neither of two directories contains the other. -/
def Apart (d : Disk) (p q : Path) : Prop :=
  ¬d.place p <+: d.place q ∧ ¬d.place q <+: d.place p

/-- A last component that leads upwards may lead above the directory, but not beside it. -/
theorem place_below_comparable (p : Path) {xs ys : List String} (hxs : Path.staysInside 0 xs)
    (hys : ys.length ≤ 1) :
    d.place p <+: d.place (p.below (xs ++ ys)) ∨ d.place (p.below (xs ++ ys)) <+: d.place p := by
  rw [← Path.below_below, place_below (p := p.below xs)]
  have hbelow := d.prefix_place_below p hxs
  cases ys with
  | nil => exact .inl hbelow
  | cons y ys =>
      obtain rfl : ys = [] := List.length_eq_zero_iff.mp (by simpa using hys)
      rw [List.foldl_cons, List.foldl_nil, upward]
      split
      · obtain ⟨more, hmore⟩ := hbelow
        rw [← hmore]
        rcases List.eq_nil_or_concat more with rfl | ⟨more, x, rfl⟩
        · rw [List.append_nil]
          exact .inr (List.dropLast_prefix _)
        · rw [List.concat_eq_append, ← List.append_assoc, List.dropLast_concat]
          exact .inl (List.prefix_append _ _)
      · exact .inl (hbelow.trans (List.prefix_append _ _))

/-- No place is below one of two directories apart and in line with the other. -/
theorem Apart.ne_place {p q : Path} (h : d.Apart p q) {names other : List String}
    (hp : d.place p <+: names) (hq : d.place q <+: other ∨ other <+: d.place q) : other ≠ names := by
  rintro rfl
  rcases hq with hq | hq
  · rcases List.prefix_or_prefix_of_prefix hp hq with h' | h'
    · exact h.1 h'
    · exact h.2 h'
  · exact h.1 (hp.trans hq)

/-- Tells whether a file is at a path. -/
def regular (d : Disk) (p : Path) : Bool :=
  match d.isFile p with
  | .ok there => there
  | .error _ => false

theorem isFile_of_regular {p : Path} (h : d.regular p) : d.isFile p = .ok true := by
  unfold regular at h
  split at h
  · next there hfile => rw [hfile, h]
  · cases h

end Disk

namespace Batch

variable {b : Batch} {d d' d'' : Disk} {template : Path}

/-! ## What a batch writes -/

/-- The place of the output of a template. -/
def target? (b : Batch) (d : Disk) (template : Path) : Option (List String) :=
  match outputPath template b.input b.output with
  | .ok target => some (d.place target)
  | .error _ => none

/-- What an entry leaves at a place: a successful one its text if its output goes there. -/
def leaves (b : Batch) (d : Disk) (names : List String) (entry : Path × Outcome) :
    Option (List UInt8) :=
  if entry.2.success ∧ b.target? d entry.1 = some names then some (encodeUtf8 entry.2.text) else none

/-- What the last of some entries that leave something at a place leave there. -/
def written (b : Batch) (d : Disk) (results : List (Path × Outcome)) (names : List String) :
    Option (List UInt8) :=
  results.reverse.findSome? (b.leaves d names)

/-- Nothing is lost, and the files hold what the entries leave there, or else what they held. -/
structure Writes (b : Batch) (d : Disk) (results : List (Path × Outcome)) (d' : Disk) : Prop where
  keeps : d.Keeps d'
  files (names : List String) : d'.file? names = (b.written d results names).or (d.file? names)

theorem written_append (xs ys : List (Path × Outcome)) (names : List String) :
    b.written d (xs ++ ys) names = (b.written d ys names).or (b.written d xs names) := by
  rw [written, List.reverse_append, List.findSome?_append]
  rfl

theorem written_eq_none {results : List (Path × Outcome)} {names : List String}
    (h : ∀ entry ∈ results, b.target? d entry.1 ≠ some names) : b.written d results names = none := by
  rw [written, List.findSome?_eq_none_iff]
  intro entry hentry
  exact if_neg fun hleaves => h entry (List.mem_reverse.mp hentry) hleaves.2

theorem target?_of_keeps (h : d.Keeps d') (template : Path) :
    b.target? d' template = b.target? d template := by
  unfold target?
  split
  · rw [h.place]
  · rfl

theorem written_of_keeps (h : d.Keeps d') (results : List (Path × Outcome)) :
    b.written d' results = b.written d results := by
  have hleaves : b.leaves d' = b.leaves d := by
    funext names entry
    rw [leaves, leaves, target?_of_keeps h]
  funext names
  rw [written, written, hleaves]

theorem Writes.refl (b : Batch) (d : Disk) : b.Writes d [] d where
  keeps := .refl d
  files _ := rfl

theorem Writes.trans {xs ys : List (Path × Outcome)} (h : b.Writes d xs d')
    (h' : b.Writes d' ys d'') : b.Writes d (xs ++ ys) d'' where
  keeps := h.keeps.trans h'.keeps
  files names := by
    rw [h'.files, h.files, written_of_keeps h.keeps, written_append, Option.or_assoc]

/-- How a text is stored: directories are made, and the output is written. -/
theorem store_ok {text : String} (h : b.store d template text = (.ok (), d')) :
    ∃ target made, outputPath template b.input b.output = .ok target ∧ d.Adds made
      ∧ made.write target (encodeUtf8 text) = .ok d' := by
  unfold store at h
  cases htarget : outputPath template b.input b.output with
  | error e =>
      rw [htarget] at h
      cases h
  | ok target =>
      rw [htarget] at h
      simp only at h
      have hadds := d.ensureDirectories_adds target.parent true target.parent.parts.length
      rcases hmake : d.ensureDirectories target.parent true target.parent.parts.length with
        ⟨e | ⟨⟩, made⟩
      · rw [hmake] at h
        cases h
      · rw [hmake] at h hadds
        simp only at h hadds
        cases hwrite : made.write target (encodeUtf8 text) with
        | error e =>
            rw [hwrite] at h
            cases h
        | ok d₂ =>
            rw [hwrite, Disk.after] at h
            cases h
            exact ⟨target, made, rfl, hadds, hwrite⟩

/-- A text that is stored is at the place of the output, and nothing else has changed. -/
theorem store_writes {text : String} (h : b.store d template text = (.ok (), d')) :
    b.Writes d [(template, .ofText text)] d' := by
  obtain ⟨target, made, htarget, hadds, hwrite⟩ := store_ok h
  obtain ⟨hsets, -⟩ := Disk.write_ok hwrite
  refine ⟨hadds.keeps.trans hsets.keeps, fun names => ?_⟩
  rw [hsets.file?, hadds.keeps.place, hadds.file?, written, List.reverse_singleton,
    List.findSome?_singleton, leaves, target?, htarget]
  by_cases hnames : names = d.place target
  · subst hnames
    simp [Outcome.ofText]
  · simp [hnames, Ne.symm hnames]

/-- What a step does for a template: it has its outcome, and its text is stored if it has one. -/
theorem step_ok {s s' : BatchState} {outcome : Outcome}
    (h : b.step template s = (.ok outcome, s')) :
    (b.outcome s.disk template).1 = .ok outcome
      ∧ s'.results = s.results ++ [(template, outcome)]
      ∧ (outcome.success = true ∧ b.store s.disk template outcome.text = (.ok (), s'.disk)
          ∨ outcome.success = false ∧ s'.disk = s.disk) := by
  unfold step at h
  simp only at h
  rcases houtcome : b.outcome s.disk template with ⟨e | found, log⟩
  · rw [houtcome] at h
    cases h
  · rw [houtcome] at h
    simp only at h
    split at h
    · next hsuccess =>
        rcases hstore : b.store s.disk template found.text with ⟨e | ⟨⟩, disk⟩
        · rw [hstore] at h
          cases h
        · rw [hstore] at h
          cases h
          exact ⟨rfl, rfl, .inl ⟨hsuccess, hstore⟩⟩
    · next hsuccess =>
        cases h
        exact ⟨rfl, rfl, .inr ⟨by simpa using hsuccess, rfl⟩⟩

theorem step_writes {s s' : BatchState} {outcome : Outcome}
    (h : b.step template s = (.ok outcome, s')) :
    b.Writes s.disk [(template, outcome)] s'.disk := by
  obtain ⟨-, -, ⟨hsuccess, hstore⟩ | ⟨hfailure, hdisk⟩⟩ := step_ok h
  · have hwrites := store_writes hstore
    refine ⟨hwrites.keeps, fun names => ?_⟩
    rw [hwrites.files]
    simp [written, leaves, Outcome.ofText, hsuccess]
  · rw [hdisk]
    refine ⟨.refl _, fun names => ?_⟩
    simp [written, leaves, hfailure]

/-! ## Runs -/

theorem run_cons_of_not_file {throws : Bool} {rest : List Path} {s : BatchState}
    (h : s.disk.isFile template = .ok false) :
    b.run throws (template :: rest) s = b.run throws rest s := by
  rw [run, h]

theorem run_cons_of_step {throws : Bool} {rest : List Path} {s s₁ : BatchState} {outcome : Outcome}
    (hfile : s.disk.isFile template = .ok true) (hstep : b.step template s = (.ok outcome, s₁)) :
    b.run throws (template :: rest) s
      = if throws && !outcome.success then (.ok (), s₁) else b.run throws rest s₁ := by
  rw [run, hfile]
  simp only [hstep]

/-- A run that succeeds has a step for each file that it comes to. -/
theorem run_cons_ok {throws : Bool} {rest : List Path} {s s' : BatchState}
    (h : b.run throws (template :: rest) s = (.ok (), s')) :
    s.disk.isFile template = .ok false ∧ b.run throws rest s = (.ok (), s')
      ∨ s.disk.isFile template = .ok true ∧ ∃ outcome s₁, b.step template s = (.ok outcome, s₁)
          ∧ (if throws && !outcome.success then (.ok (), s₁) else b.run throws rest s₁)
            = (.ok (), s') := by
  rw [run] at h
  cases hfile : s.disk.isFile template with
  | error e =>
      rw [hfile] at h
      cases h
  | ok there =>
      rw [hfile] at h
      cases there with
      | false => exact .inl ⟨rfl, h⟩
      | true =>
          rcases hstep : b.step template s with ⟨e | outcome, s₁⟩
          · rw [hstep] at h
            cases h
          · rw [hstep] at h
            exact .inr ⟨rfl, outcome, s₁, rfl, h⟩

theorem run_writes {throws : Bool} {templates : List Path} {s s' : BatchState}
    (h : b.run throws templates s = (.ok (), s')) :
    ∃ more, s'.results = s.results ++ more ∧ b.Writes s.disk more s'.disk := by
  induction templates generalizing s with
  | nil =>
      cases h
      exact ⟨[], (List.append_nil _).symm, .refl b _⟩
  | cons template rest ih =>
      rcases run_cons_ok h with ⟨-, h⟩ | ⟨-, outcome, s₁, hstep, h⟩
      · exact ih h
      · obtain ⟨-, hresults, -⟩ := step_ok hstep
        have hwrites := step_writes hstep
        split at h
        · cases h
          exact ⟨[(template, outcome)], hresults, hwrites⟩
        · obtain ⟨more, hmore, hwrites'⟩ := ih h
          refine ⟨(template, outcome) :: more, ?_, hwrites.trans hwrites'⟩
          rw [hmore, hresults, List.append_assoc]
          rfl

/-- The entries up to and with the first failure. -/
def uptoFailure : List (Path × Outcome) → List (Path × Outcome)
  | [] => []
  | entry :: entries => if entry.2.success then entry :: uptoFailure entries else [entry]

/-- With the option to raise errors, a run is the part of the other one up to its first failure. -/
theorem run_throws {templates : List Path} {s s' : BatchState}
    (h : b.run false templates s = (.ok (), s')) :
    ∃ more s'', s'.results = s.results ++ more ∧ b.run true templates s = (.ok (), s'')
      ∧ s''.results = s.results ++ uptoFailure more := by
  induction templates generalizing s with
  | nil =>
      cases h
      exact ⟨[], _, (List.append_nil _).symm, rfl, (List.append_nil _).symm⟩
  | cons template rest ih =>
      rcases run_cons_ok h with ⟨hfile, h⟩ | ⟨hfile, outcome, s₁, hstep, h⟩
      · obtain ⟨more, s'', hmore, hrun, hresults⟩ := ih h
        exact ⟨more, s'', hmore, (run_cons_of_not_file hfile).trans hrun, hresults⟩
      · obtain ⟨-, hs₁, -⟩ := step_ok hstep
        obtain ⟨more, s'', hmore, hrun, hresults⟩ := ih h
        refine ⟨(template, outcome) :: more, ?_⟩
        rw [hmore, hs₁, List.append_assoc, run_cons_of_step hfile hstep]
        simp only [uptoFailure, Bool.true_and]
        cases hsuccess : outcome.success with
        | true =>
            refine ⟨s'', rfl, hrun, ?_⟩
            rw [hresults, hs₁, List.append_assoc]
            rfl
        | false => exact ⟨s₁, rfl, rfl, hs₁⟩

/-! ## Entries -/

/-- The entry that a file has by its bytes: why they are no text, or the outcome for their text, with
line feeds for line ends, against the context of the batch. -/
inductive Entry (b : Batch) (d : Disk) (template : Path) : Path × Outcome → Prop
  | unreadable {bytes : List UInt8} {error : Utf8Error}
      (hbytes : d.file? (d.place template) = some bytes) (h : decodeUtf8 bytes = .error error) :
      Entry b d template (template, .ofError ("Cannot read template: " ++ error.message))
  | rendered {bytes : List UInt8} {text : String} {outcome : Outcome}
      (hbytes : d.file? (d.place template) = some bytes) (h : decodeUtf8 bytes = .ok text)
      (hrender : (b.engine.renderOutcome b.flags (.str (String.ofList (unifyLineEnds text.toList)))
        { context := b.context, filters := Filters.absent : Arguments Unit } ⟨(), []⟩).result
          = .ok outcome) : Entry b d template (template, outcome)

theorem entry_of_outcome {outcome : Outcome} (hfile : d.isFile template = .ok true)
    (h : (b.outcome d template).1 = .ok outcome) : b.Entry d template (template, outcome) := by
  obtain ⟨bytes, hbytes, hread⟩ := Disk.read_of_isFile hfile
  unfold Batch.outcome Disk.readText at h
  rw [hread] at h
  cases hdecode : decodeUtf8 bytes with
  | error error =>
      simp only [hdecode] at h
      cases h
      exact .unreadable hbytes hdecode
  | ok text =>
      simp only [hdecode] at h
      exact .rendered hbytes hdecode h

/-- Each file that is at no place that the batch writes has the entry of its bytes, in order. -/
theorem run_entries {templates : List Path} {s s' : BatchState}
    (h : b.run false templates s = (.ok (), s')) (hkeeps : d.Keeps s.disk)
    (hfound : ∀ t ∈ templates, d.Found t)
    (hsame : ∀ t ∈ templates, s.disk.file? (d.place t) = d.file? (d.place t))
    (hclear : ∀ t ∈ templates, ∀ t' ∈ templates, b.target? d t' ≠ some (d.place t)) :
    ∃ more, s'.results = s.results ++ more
      ∧ List.Forall₂ (b.Entry d) (templates.filter d.regular) more := by
  induction templates generalizing s with
  | nil =>
      cases h
      exact ⟨[], (List.append_nil _).symm, .nil⟩
  | cons template rest ih =>
      rw [List.forall_mem_cons] at hfound hsame
      have hrest : ∀ t ∈ rest, ∀ t' ∈ rest, b.target? d t' ≠ some (d.place t) :=
        fun t ht t' ht' => hclear t (List.mem_cons_of_mem _ ht) t' (List.mem_cons_of_mem _ ht')
      rcases run_cons_ok h with ⟨hfile, h⟩ | ⟨hfile, outcome, s₁, hstep, h⟩
      · rw [hkeeps.isFile hfound.1] at hfile
        rw [List.filter_cons_of_neg (by rw [Disk.regular, hfile]; exact nofun)]
        exact ih h hkeeps hfound.2 hsame.2 hrest
      · rw [hkeeps.isFile hfound.1] at hfile
        rw [List.filter_cons_of_pos (by rw [Disk.regular, hfile])]
        obtain ⟨houtcome, hresults, -⟩ := step_ok hstep
        have hwrites := step_writes hstep
        -- the file still has the bytes that it had, and so its own outcome
        rw [Batch.outcome, hkeeps.readText hfound.1 hfile hsame.1] at houtcome
        have hentry : b.Entry d template (template, outcome) := entry_of_outcome hfile houtcome
        have hsame' : ∀ t ∈ rest, s₁.disk.file? (d.place t) = d.file? (d.place t) := by
          intro t ht
          have hnone : b.written s.disk [(template, outcome)] (d.place t) = none :=
            written_eq_none fun entry hmem => by
              rw [List.mem_singleton] at hmem
              rw [hmem, target?_of_keeps hkeeps]
              exact hclear t (List.mem_cons_of_mem _ ht) template List.mem_cons_self
          rw [hwrites.files, hnone, Option.none_or, hsame.2 t ht]
        obtain ⟨more, hmore, hentries⟩ :=
          ih h (hkeeps.trans hwrites.keeps) hfound.2 hsame' hrest
        refine ⟨(template, outcome) :: more, ?_, .cons hentry hentries⟩
        rw [hmore, hresults, List.append_assoc]
        rfl

end Batch

/-! ## Whole batches -/

/-- A pattern that is asked for never leads above the directory in which it is looked for. -/
def BatchOptions.StaysInside (options : BatchOptions) : Prop :=
  ∀ pattern, Glob.Pattern.ofText? options.pattern = .ok pattern → pattern.StaysInside

/-- The batch is the map over the files: one entry for each of them, in order, and as files the texts
of the successful ones besides what was there. -/
structure Batch.FileByFile (b : Batch) (d : Disk) (templates : List Path) (s : BatchState) :
    Prop where
  entries : List.Forall₂ (b.Entry d) (templates.filter d.regular) s.results
  inOrder : (s.results.map (·.1)).Pairwise fun p q => p.le q ∧ p ≠ q
  writes : b.Writes d s.results s.disk

theorem Batch.paths_of_entries {b : Batch} {d : Disk} {templates : List Path}
    {results : List (Path × Outcome)} (h : List.Forall₂ (b.Entry d) templates results) :
    results.map (·.1) = templates := by
  induction h with
  | nil => rfl
  | cons hentry _ ih =>
      rw [List.map_cons, ih]
      cases hentry <;> rfl

section

variable {flags : Flags} {options : BatchOptions} {input output : Path} {d : Disk} {b : Batch}
  {templates : List Path}

/-- What a batch is prepared from. -/
theorem prepare_eq_ok_iff :
    prepare flags options input output d = .ok (b, templates)
      ↔ ∃ o context pattern,
          configure (.value .none) [("tokens", options.tokens.elim (.list []) .str)] = .ok o
          ∧ loadContext d options.context input = .ok context
          ∧ Glob.Pattern.ofText? options.pattern = .ok pattern
          ∧ pattern.paths d input = .ok templates
          ∧ b = ⟨⟨o⟩, context, flags, input, output⟩ := by
  unfold prepare
  simp only [bind_eq_ok_iff, mapError_eq_ok_iff]
  constructor
  · rintro ⟨o, ho, context, hcontext, pattern, hpattern, found, hfound, h⟩
    cases h
    exact ⟨o, context, pattern, ho, hcontext, hpattern, hfound, rfl⟩
  · rintro ⟨o, context, pattern, ho, hcontext, hpattern, hfound, rfl⟩
    exact ⟨o, ho, context, hcontext, pattern, hpattern, templates, hfound, rfl⟩

/-- The option to raise errors has a part in the run only. -/
theorem renderTemplates_of_prepare (throws : Bool)
    (h : prepare flags options input output d = .ok (b, templates)) :
    renderTemplates flags { options with throws := throws } input output d
      = b.run throws templates { disk := d } := by
  have hprepare : prepare flags { options with throws := throws } input output d
      = .ok (b, templates) := h
  rw [renderTemplates, hprepare]

/-- What a pattern that stays inside selects is below the input directory. -/
theorem prepare_selected (hd : d.tree.WellFormed) (hinside : options.StaysInside)
    (h : prepare flags options input output d = .ok (b, templates)) {t : Path} (ht : t ∈ templates) :
    d.Found t ∧ ∃ names, t = input.below names ∧ "." ∉ names ∧ Path.staysInside 0 names := by
  obtain ⟨-, -, pattern, -, -, hpattern, hpaths, -⟩ := prepare_eq_ok_iff.mp h
  obtain ⟨-, -, hselected⟩ := Glob.Pattern.paths_ok hd hpaths
  obtain ⟨hfound, names, rfl, hdot, hnames⟩ := hselected t ht
  exact ⟨hfound, names, rfl, hdot, hnames (hinside pattern hpattern)⟩

/-- No file that is selected is at the place of an output. -/
theorem prepare_clear (hd : d.tree.WellFormed) (hapart : d.Apart input output)
    (hinside : options.StaysInside)
    (h : prepare flags options input output d = .ok (b, templates)) {t t' : Path}
    (ht : t ∈ templates) (ht' : t' ∈ templates) : b.target? d t' ≠ some (d.place t) := by
  obtain ⟨o, context, pattern, -, -, -, -, rfl⟩ := prepare_eq_ok_iff.mp h
  obtain ⟨-, names, rfl, -, hnames⟩ := prepare_selected hd hinside h ht
  obtain ⟨-, names', rfl, hdot, hnames'⟩ := prepare_selected hd hinside h ht'
  obtain ⟨last, hlast, htarget⟩ := outputPath_below input output hdot
  rw [Batch.target?, htarget]
  intro heq
  exact hapart.ne_place (d.prefix_place_below input hnames)
    (Disk.place_below_comparable output (Path.staysInside_dropLast hnames') hlast)
    (Option.some.inj heq)

/-- A batch that comes to its end is the map over the files. -/
theorem Batch.fileByFile_of_run (hd : d.tree.WellFormed) (hapart : d.Apart input output)
    (hinside : options.StaysInside)
    (hprepare : prepare flags options input output d = .ok (b, templates)) {s : BatchState}
    (h : b.run false templates { disk := d } = (.ok (), s)) : b.FileByFile d templates s := by
  obtain ⟨more, hmore, hentries⟩ := run_entries h (.refl d)
    (fun t ht => (prepare_selected hd hinside hprepare ht).1) (fun _ _ => rfl)
    fun t ht t' ht' => prepare_clear hd hapart hinside hprepare ht ht'
  obtain rfl : s.results = more := hmore
  obtain ⟨more, hmore, hwrites⟩ := run_writes h
  obtain rfl : s.results = more := hmore
  refine ⟨hentries, ?_, hwrites⟩
  obtain ⟨-, -, pattern, -, -, -, hpaths, -⟩ := prepare_eq_ok_iff.mp hprepare
  obtain ⟨hnodup, hsorted, -⟩ := Glob.Pattern.paths_ok hd hpaths
  rw [paths_of_entries hentries]
  exact (hsorted.and hnodup).filter _

end

/--
A batch that does not raise errors and comes to its end is the map over the files that the pattern
selects. The same batch with the option to raise errors comes to its end too; it has the entries up to
the first failure, and has written what the successful ones among them leave. The pattern has to stay
inside the input directory, as one that climbs out of it may come back to files that the batch has
written.
-/
theorem renderTemplates_fileByFile (flags : Flags) (options : BatchOptions) (input output : Path)
    (d : Disk) (hd : d.tree.WellFormed) (hapart : d.Apart input output)
    (hinside : options.StaysInside)
    (hrun : (renderTemplates flags { options with throws := false } input output d).1 = .ok ()) :
    let whole := (renderTemplates flags { options with throws := false } input output d).2
    let part := renderTemplates flags { options with throws := true } input output d
    ∃ b templates, prepare flags options input output d = .ok (b, templates)
      ∧ b.FileByFile d templates whole
      ∧ part.1 = .ok () ∧ part.2.results = Batch.uptoFailure whole.results
      ∧ b.Writes d part.2.results part.2.disk := by
  intro whole part
  cases hprepare : prepare flags options input output d with
  | error e =>
      have hprepare' : prepare flags { options with throws := false } input output d = .error e :=
        hprepare
      rw [renderTemplates, hprepare'] at hrun
      cases hrun
  | ok prepared =>
      obtain ⟨b, templates⟩ := prepared
      have hwhole : b.run false templates { disk := d } = (.ok (), whole) := by
        rw [← renderTemplates_of_prepare false hprepare, Prod.ext_iff]
        exact ⟨hrun, rfl⟩
      obtain ⟨more, s'', hmore, hpart, hresults⟩ := Batch.run_throws hwhole
      obtain rfl : whole.results = more := hmore
      have hs'' : part = (.ok (), s'') :=
        (renderTemplates_of_prepare true hprepare).trans hpart
      obtain ⟨more, hmore, hwrites⟩ := Batch.run_writes hpart
      obtain rfl : s''.results = more := hmore
      have hfiles := Batch.fileByFile_of_run hd hapart hinside hprepare hwhole
      refine ⟨b, templates, rfl, hfiles, ?_⟩
      rw [hs'']
      exact ⟨rfl, hresults, hwrites⟩

/-- An input directory with a template that cannot be parsed and one whose output has its name, next
to two directories; and an output directory. -/
def Disk.sample : Disk where
  tree := .directory [
    ("i", .directory [("p", .directory []), ("q", .directory []), ("x", .file (encodeUtf8 "\x7b")),
      ("x.tmpl", .file (encodeUtf8 "fine"))]),
    ("o", .directory [])]

/-- The default engine and an empty context, from one directory at the root to another. -/
def Batch.sample : Batch :=
  ⟨Engine.plain, .dict [], {}, ⟨"/", ["i"]⟩, ⟨"/", ["o"]⟩⟩

theorem Disk.sample_wellFormed : Disk.sample.tree.WellFormed := by
  have hfile := Tree.wellFormed_file
  have hempty : (Tree.directory []).WellFormed :=
    Tree.wellFormed_directory ⟨.nil, nofun, nofun⟩ nofun
  refine Tree.wellFormed_directory ⟨by decide, by decide, by decide⟩ ?_
  simp only [List.forall_mem_cons, List.not_mem_nil, false_implies, implies_true, and_true]
  refine ⟨Tree.wellFormed_directory ⟨by decide, by decide, by decide⟩ ?_, hempty⟩
  simp only [List.forall_mem_cons, List.not_mem_nil, false_implies, implies_true, and_true]
  exact ⟨hempty, hempty, hfile _, hfile _⟩

theorem Disk.sample_apart : Disk.sample.Apart ⟨"/", ["i"]⟩ ⟨"/", ["o"]⟩ :=
  ⟨by decide, by decide⟩

theorem prepare_sample {d : Disk} {text : String} {pattern : Glob.Pattern}
    {found templates : List Path} (hthere : d.isDirectory ⟨"/", ["i"]⟩ = .ok true)
    (hpattern : Glob.Pattern.ofText? text = .ok pattern)
    (hselect : Glob.select d pattern.directoriesOnly pattern.parts ⟨"/", ["i"]⟩ = .ok found)
    (hperm : templates.Perm found) (hsorted : templates.Pairwise fun p q => p.le q) :
    prepare {} { pattern := some text } ⟨"/", ["i"]⟩ ⟨"/", ["o"]⟩ d
      = .ok (Batch.sample, templates) := by
  have hpaths := Glob.Pattern.paths_of_select hthere hselect hperm hsorted
  exact prepare_eq_ok_iff.mpr ⟨_, _, pattern, rfl, rfl, hpattern, hpaths, rfl⟩

/-- The first of two files fails and the second is written; with the option to raise errors the batch
stops at the first. -/
theorem renderTemplates_fileByFile_sample :
    let options : BatchOptions := { pattern := some "x*" }
    let input : Path := ⟨"/", ["i"]⟩
    let output : Path := ⟨"/", ["o"]⟩
    let whole := renderTemplates {} { options with throws := false } input output Disk.sample
    let part := renderTemplates {} { options with throws := true } input output Disk.sample
    Disk.sample.tree.WellFormed ∧ Disk.sample.Apart input output ∧ options.StaysInside
      ∧ whole.1 = .ok ()
      ∧ (∃ b templates, prepare {} options input output Disk.sample = .ok (b, templates)
          ∧ b.FileByFile Disk.sample templates whole.2)
      ∧ whole.2.results = [(input.child "x", .ofError "Empty variable path: '\x7b'"),
          (input.child "x.tmpl", .ofText "fine")]
      ∧ part.2.results = [(input.child "x", .ofError "Empty variable path: '\x7b'")] := by
  intro options input output whole part
  have hpattern : Glob.Pattern.ofText? options.pattern
      = .ok ⟨[.wild [.char 'x', .star]], false⟩ := rfl
  have hinside : options.StaysInside := by
    intro pattern h
    cases hpattern.symm.trans h
    rfl
  have hprepare : prepare {} options input output Disk.sample
      = .ok (Batch.sample, [input.child "x", input.child "x.tmpl"]) :=
    prepare_sample rfl hpattern rfl (.refl _) (by decide)
  have hresults : whole.2.results = [(input.child "x", .ofError "Empty variable path: '\x7b'"),
      (input.child "x.tmpl", .ofText "fine")] := by
    rw [show whole = _ from renderTemplates_of_prepare false hprepare]
    decide +kernel
  have hrun : whole.1 = .ok () := by
    rw [show whole = _ from renderTemplates_of_prepare false hprepare]
    exact toOption_eq_some_iff.mp (by decide +kernel)
  obtain ⟨b, templates, hb, hwhole, -, hpart, -⟩ :=
    renderTemplates_fileByFile {} options input output Disk.sample Disk.sample_wellFormed
      Disk.sample_apart hinside hrun
  refine ⟨Disk.sample_wellFormed, Disk.sample_apart, hinside, hrun, ⟨b, templates, hb, hwhole⟩,
    hresults, ?_⟩
  rw [show part.2.results = _ from hpart, show Prod.snd _ = whole.2 from rfl, hresults]
  rfl

/-- A pattern that climbs out of the input directory selects one file under two names. Between them
the output of another file is written to its place, and so the second entry is not that of the file as
it was. -/
theorem renderTemplates_not_fileByFile :
    let options : BatchOptions := { pattern := some "../i/*/../x*" }
    let input : Path := ⟨"/", ["i"]⟩
    let output : Path := ⟨"/", ["o"]⟩
    let whole := renderTemplates {} { options with throws := false } input output Disk.sample
    Disk.sample.tree.WellFormed ∧ Disk.sample.Apart input output ∧ whole.1 = .ok ()
      ∧ ¬∃ b templates, prepare {} options input output Disk.sample = .ok (b, templates)
          ∧ b.FileByFile Disk.sample templates whole.2 := by
  intro options input output whole
  let again : Path := ⟨"/", ["i", "..", "i", "q", "..", "x"]⟩
  have hprepare : prepare {} options input output Disk.sample
      = .ok (Batch.sample, [⟨"/", ["i", "..", "i", "p", "..", "x"]⟩,
          ⟨"/", ["i", "..", "i", "p", "..", "x.tmpl"]⟩, again,
          ⟨"/", ["i", "..", "i", "q", "..", "x.tmpl"]⟩]) :=
    prepare_sample rfl rfl rfl (.refl _) (by decide)
  have hresults : (again, Outcome.ofText "fine") ∈ whole.2.results := by
    rw [show whole = _ from renderTemplates_of_prepare false hprepare]
    decide +kernel
  have hrun : whole.1 = .ok () := by
    rw [show whole = _ from renderTemplates_of_prepare false hprepare]
    exact toOption_eq_some_iff.mp (by decide +kernel)
  refine ⟨Disk.sample_wellFormed, Disk.sample_apart, hrun, ?_⟩
  rintro ⟨b, templates, hb, hwhole⟩
  cases hprepare.symm.trans hb
  obtain ⟨t, -, hentry⟩ := forall₂_mem_right hwhole.entries hresults
  generalize houtcome : Outcome.ofText "fine" = outcome at hentry
  cases hentry with
  | unreadable => cases congrArg Outcome.success houtcome
  | rendered hbytes hdecode hrender =>
      have hthere : Disk.sample.file? (Disk.sample.place again) = some (encodeUtf8 "\x7b") := rfl
      cases hthere.symm.trans hbytes
      have htext : decodeUtf8 (encodeUtf8 "\x7b") = .ok "\x7b" :=
        toOption_eq_some_iff.mp (by decide +kernel)
      cases htext.symm.trans hdecode
      have hown : (Batch.sample.engine.renderOutcome Batch.sample.flags
          (.str (String.ofList (unifyLineEnds "\x7b".toList)))
          { context := Batch.sample.context, filters := Filters.absent : Arguments Unit }
          ⟨(), []⟩).result = .ok (.ofError "Empty variable path: '\x7b'") :=
        toOption_eq_some_iff.mp (by decide +kernel)
      rw [hown, ← houtcome] at hrender
      cases congrArg Outcome.success (Except.ok.inj hrender)

end Stencil
