import Stencil.Proofs.Completion
import Stencil.Proofs.Encoding
import Stencil.Proofs.Reconfiguration
import Stencil.Proofs.Unresolved

/-!
# Files of plain text

A file whose text has no symbols is copied, but for its line ends: a batch reads them as line feeds
and writes them so (`renderTemplates_copies`). The output has the bytes of the file just if the file
has no carriage return. All other bytes are kept, those of a byte order mark and of controls as well.

A batch may stop later on. So what it has written is followed here through a run with whatever end
(`Batch.Spares`): nothing but the places of outputs changes.
-/

namespace Stencil

open Text Parse Grammar

/-! ## Plain text -/

/-- A blank cluster is no symbol. -/
theorem Options.kind?_of_blank (o : Options) {c : String} (h : isBlankText c.toList = true) :
    o.symbols.kind? c = none := by
  cases hk : o.symbols.kind? c with
  | none => rfl
  | some k =>
      have hc : c ∈ o.symbols.clusters := by
        rw [Symbols.eq_ofRole_of_kind? hk]
        cases k with
        | literal => exact absurd rfl (Symbols.kind_ne_literal hk)
        | _ => simp [Symbols.ofRole, Symbols.clusters]
      have hblank := (o.wellFormed.cluster c hc).2.2
      rw [h] at hblank
      cases hblank

/-- A text of plain clusters has plain clusters with other line ends. -/
theorem Options.plain_unifyLineEnds (o : Options) {text : String}
    (hplain : ∀ c ∈ segment text, o.symbols.kind? c = none) :
    ∀ c ∈ segment (String.ofList (unifyLineEnds text.toList)), o.symbols.kind? c = none := by
  intro c hc
  obtain ⟨g, hg, rfl⟩ := List.mem_map.mp hc
  rw [String.toList_ofList] at hg
  rcases mem_clusters_unifyLineEnds hg with rfl | hg
  · exact o.kind?_of_blank rfl
  · exact hplain _ (List.mem_map_of_mem hg)

theorem Engine.renderOutcome_of_plain {σ : Type} (e : Engine) (flags : Flags) {text : String}
    {a : Arguments σ} (ha : a.Accepted)
    (hplain : ∀ c ∈ segment text, e.options.symbols.kind? c = none) (run : Run σ) :
    e.renderOutcome flags (.str text) a run = ⟨.ok (.ofText text), run, []⟩ := by
  let d : Items := .last ⟨⟨.literal, text, 0⟩, rfl⟩
  have htokens : tokenize e.options.symbols text = d.tokens := by
    rw [tokenize_eq, tokensFrom_of_plain 0 hplain, join_segment]
    rfl
  have hcompile : e.compile (.str text) = .ok (bodyOf (literalNodes text)) :=
    compile_eq_ok_iff.mpr (htokens ▸ parse_tokens e.options.symbols d)
  have hrender : (e.scene a).renderNodes (bodyOf (literalNodes text)) = pure text := by
    rw [Scene.renderNodes_bodyOf, Scene.renderNodes_literalNodes]
  have hstrict := renderStrict_of_pure ha hcompile hrender run
  rw [renderOutcome_of_ok (congrArg Report.result hstrict), hstrict]

namespace Batch

variable {b : Batch} {d : Disk} {template : Path}

/-- The outcome for a file of plain text is that text, with line feeds for line ends. -/
theorem outcome_of_plain {bytes : List UInt8} {text : String} (hfile : d.isFile template = .ok true)
    (hbytes : d.file? (d.place template) = some bytes) (htext : decodeUtf8 bytes = .ok text)
    (hplain : ∀ c ∈ segment text, b.engine.options.symbols.kind? c = none) :
    b.outcome d template = (.ok (.ofText (String.ofList (unifyLineEnds text.toList))), []) := by
  obtain ⟨read, hthere, hread⟩ := Disk.read_of_isFile hfile
  cases hbytes.symm.trans hthere
  have hreadText : d.readText template = .ok (String.ofList (unifyLineEnds text.toList)) := by
    rw [Disk.readText, hread]
    simp only [htext]
  rw [outcome, hreadText]
  simp only
  rw [show (⟨b.context, .absent⟩ : Arguments Unit) = .bare b.context from rfl,
    b.engine.renderOutcome_of_plain b.flags (Arguments.bare_accepted b.context)
      (b.engine.options.plain_unifyLineEnds hplain)]

/-! ## What a run leaves alone -/

/-- From one state to a later one, entries are added and no file is written but at the places of the
outputs of some templates. -/
structure Spares (b : Batch) (d : Disk) (templates : List Path) (s s' : BatchState) : Prop where
  keeps : s.disk.Keeps s'.disk
  results : s.results <+: s'.results
  files (names : List String) (h : ∀ t ∈ templates, d.regular t → b.target? d t ≠ some names) :
    s'.disk.file? names = s.disk.file? names

theorem Spares.refl (b : Batch) (d : Disk) (templates : List Path) (s : BatchState) :
    b.Spares d templates s s where
  keeps := .refl s.disk
  results := List.prefix_refl s.results
  files _ _ := rfl

theorem Spares.trans {templates : List Path} {s s' s'' : BatchState} (h : b.Spares d templates s s')
    (h' : b.Spares d templates s' s'') : b.Spares d templates s s'' where
  keeps := h.keeps.trans h'.keeps
  results := h.results.trans h'.results
  files names hnames := (h'.files names hnames).trans (h.files names hnames)

/-- A text that cannot be stored leaves no file either. -/
theorem store_spares (b : Batch) (d : Disk) (template : Path) (text : String) :
    d.Keeps (b.store d template text).2
      ∧ ∀ names, b.target? d template ≠ some names →
        (b.store d template text).2.file? names = d.file? names := by
  unfold store target?
  cases houtput : outputPath template b.input b.output with
  | error e => exact ⟨.refl d, fun _ _ => rfl⟩
  | ok target =>
      simp only
      have hadds := d.ensureDirectories_adds target.parent true target.parent.parts.length
      rcases hmake : d.ensureDirectories target.parent true target.parent.parts.length with
        ⟨e | ⟨⟩, made⟩ <;> rw [hmake] at hadds
      · exact ⟨hadds.keeps, fun names _ => hadds.file? names⟩
      · simp only
        cases hwrite : made.write target (encodeUtf8 text) with
        | error e => exact ⟨hadds.keeps, fun names _ => hadds.file? names⟩
        | ok written =>
            obtain ⟨hsets, -⟩ := Disk.write_ok hwrite
            refine ⟨hadds.keeps.trans hsets.keeps, fun names hnames => ?_⟩
            have hother : names ≠ made.place target := by
              rw [hadds.keeps.place]
              exact fun h => hnames (by rw [h])
            rw [Disk.after, hsets.file?, if_neg hother, hadds.file?]

theorem step_spares {templates : List Path} {s : BatchState} (hkeeps : d.Keeps s.disk)
    (ht : template ∈ templates) (hregular : d.regular template) :
    b.Spares d templates s (b.step template s).2 := by
  unfold step
  simp only
  rcases b.outcome s.disk template with ⟨e | outcome, log⟩
  · exact ⟨.refl s.disk, List.prefix_refl s.results, fun _ _ => rfl⟩
  · simp only
    split
    · obtain ⟨hkeeps', hfiles⟩ := b.store_spares s.disk template outcome.text
      refine ⟨hkeeps', List.prefix_append s.results _, fun names hnames => hfiles names ?_⟩
      rw [target?_of_keeps hkeeps]
      exact hnames template ht hregular
    · exact ⟨.refl s.disk, List.prefix_append s.results _, fun _ _ => rfl⟩

/-- A run writes nothing but the outputs of its files, whether it comes to its end or not. -/
theorem run_spares {throws : Bool} {templates rest : List Path} {s : BatchState}
    (hkeeps : d.Keeps s.disk) (hfound : ∀ t ∈ templates, d.Found t) (hrest : rest ⊆ templates) :
    b.Spares d templates s (b.run throws rest s).2 := by
  induction rest generalizing s with
  | nil => exact .refl b d templates s
  | cons t rest ih =>
      have ht : t ∈ templates := hrest List.mem_cons_self
      have hrest' : rest ⊆ templates := fun u hu => hrest (List.mem_cons_of_mem t hu)
      rw [run]
      cases hfile : s.disk.isFile t with
      | error e => exact .refl b d templates s
      | ok there => cases there with
        | false => exact ih hkeeps hrest'
        | true =>
            rw [hkeeps.isFile (hfound t ht)] at hfile
            have hstep : b.Spares d templates s (b.step t s).2 :=
              step_spares hkeeps ht (by rw [Disk.regular, hfile])
            rcases hresult : b.step t s with ⟨e | outcome, s₁⟩ <;> rw [hresult] at hstep
            · exact hstep
            · simp only
              split
              · exact hstep
              · exact hstep.trans (ih (hkeeps.trans hstep.keeps) hrest')

/-! ## Where a run is -/

/-- A run comes from one state to a file and another state: it passes over what is no file, and has
a step for every other one, which does not end it. -/
inductive ComesTo (b : Batch) (throws : Bool) (template : Path) :
    List Path → BatchState → BatchState → Prop
  | here {s : BatchState} (hfile : s.disk.isFile template = .ok true) :
      ComesTo b throws template [] s s
  | pass {t : Path} {before : List Path} {s s' : BatchState} (hfile : s.disk.isFile t = .ok false)
      (h : ComesTo b throws template before s s') : ComesTo b throws template (t :: before) s s'
  | step {t : Path} {before : List Path} {s s₁ s' : BatchState} {outcome : Outcome}
      (hfile : s.disk.isFile t = .ok true) (hstep : b.step t s = (.ok outcome, s₁))
      (hgoes : (throws && !outcome.success) = false)
      (h : ComesTo b throws template before s₁ s') : ComesTo b throws template (t :: before) s s'

section

variable {throws : Bool} {before : List Path} {s s' : BatchState}

theorem ComesTo.file (h : b.ComesTo throws template before s s') :
    s'.disk.isFile template = .ok true := by
  induction h with
  | here hfile => exact hfile
  | pass _ _ ih => exact ih
  | step _ _ _ _ ih => exact ih

/-- From there on the run is one over the file and what is behind it. -/
theorem ComesTo.run_eq (h : b.ComesTo throws template before s s') (rest : List Path) :
    b.run throws (before ++ template :: rest) s = b.run throws (template :: rest) s' := by
  induction h with
  | here => rfl
  | pass hfile _ ih => exact (run_cons_of_not_file hfile).trans ih
  | step hfile hstep hgoes _ ih =>
      rw [List.cons_append, run_cons_of_step hfile hstep, hgoes]
      exact ih

theorem ComesTo.spares {templates : List Path} (h : b.ComesTo throws template before s s')
    (hkeeps : d.Keeps s.disk) (hfound : ∀ t ∈ templates, d.Found t) (hbefore : before ⊆ templates) :
    b.Spares d templates s s' := by
  induction h with
  | here => exact .refl b d templates _
  | pass _ _ ih => exact ih hkeeps fun t ht => hbefore (List.mem_cons_of_mem _ ht)
  | @step t before s s₁ s' outcome hfile hstep _ _ ih =>
      have ht : t ∈ templates := hbefore List.mem_cons_self
      rw [hkeeps.isFile (hfound t ht)] at hfile
      have hspares := step_spares (b := b) hkeeps ht (by rw [Disk.regular, hfile])
      rw [hstep] at hspares
      exact hspares.trans
        (ih (hkeeps.trans hspares.keeps) fun t ht => hbefore (List.mem_cons_of_mem _ ht))

/-- A step adds the entry of its file, unless rendering it ends the run. -/
theorem mem_step_results {t : Path} {outcome : Outcome}
    (h : (template, outcome) ∈ (b.step t s).2.results) :
    (template, outcome) ∈ s.results
      ∨ t = template ∧ (b.outcome s.disk template).1 = .ok outcome := by
  unfold step at h
  simp only at h
  rcases hresult : b.outcome s.disk t with ⟨e | found, log⟩ <;> rw [hresult] at h
  · exact .inl h
  · have hadded : (template, outcome) ∈ s.results ++ [(t, found)] := by
      simp only at h
      split at h <;> exact h
    rw [List.mem_append, List.mem_singleton] at hadded
    refine hadded.imp_right fun heq => ?_
    cases heq
    exact ⟨rfl, congrArg Prod.fst hresult⟩

/-- An entry of a run was there before, or the run comes to its file and finds its outcome. -/
theorem exists_comesTo {templates : List Path} {outcome : Outcome}
    (h : (template, outcome) ∈ (b.run throws templates s).2.results) :
    (template, outcome) ∈ s.results
      ∨ ∃ before rest s', templates = before ++ template :: rest
          ∧ b.ComesTo throws template before s s' ∧ (b.outcome s'.disk template).1 = .ok outcome := by
  induction templates generalizing s with
  | nil => exact .inl h
  | cons t rest ih =>
      rw [run] at h
      cases hfile : s.disk.isFile t with
      | error e =>
          rw [hfile] at h
          exact .inl h
      | ok there =>
          rw [hfile] at h
          cases there with
          | false =>
              refine (ih h).imp_right ?_
              rintro ⟨before, rest', s', rfl, hcomes, houtcome⟩
              exact ⟨t :: before, rest', s', rfl, .pass hfile hcomes, houtcome⟩
          | true =>
              -- the entry may be that of this step, whether the run goes on or not
              have hhere (hmem : (template, outcome) ∈ (b.step t s).2.results) :
                  (template, outcome) ∈ s.results
                    ∨ ∃ before rest' s', t :: rest = before ++ template :: rest'
                        ∧ b.ComesTo throws template before s s'
                        ∧ (b.outcome s'.disk template).1 = .ok outcome := by
                rcases mem_step_results hmem with hmem | ⟨rfl, houtcome⟩
                · exact .inl hmem
                · exact .inr ⟨[], rest, s, rfl, .here hfile, houtcome⟩
              rcases hstep : b.step t s with ⟨e | found, s₁⟩ <;> rw [hstep] at h hhere
              · exact hhere h
              · simp only at h
                split at h
                · exact hhere h
                · next hgoes =>
                    rcases ih h with hmem | ⟨before, rest', s', rfl, hcomes, houtcome⟩
                    · exact hhere hmem
                    · exact .inr ⟨t :: before, rest', s', rfl,
                        .step hfile hstep (by simpa using hgoes) hcomes, houtcome⟩

end

/-- A file with a text gets its entry. Then its text cannot be stored and ends the run, or it is
stored and the run goes on. -/
theorem run_cons_of_text (throws : Bool) (rest : List Path) {s : BatchState} {text : String}
    {log : List LogRecord} (hfile : s.disk.isFile template = .ok true)
    (houtcome : b.outcome s.disk template = (.ok (.ofText text), log)) :
    (template, Outcome.ofText text) ∈ (b.step template s).2.results
      ∧ ((∃ e, (b.store s.disk template text).1 = .error e
          ∧ b.run throws (template :: rest) s = (.error e, (b.step template s).2))
        ∨ b.store s.disk template text = (.ok (), (b.step template s).2.disk)
          ∧ b.run throws (template :: rest) s = b.run throws rest (b.step template s).2) := by
  rw [run, hfile]
  unfold step
  simp only [houtcome]
  rw [if_pos (show (Outcome.ofText text).success = true from rfl)]
  rcases hstore : b.store s.disk template (Outcome.ofText text).text with ⟨e | ⟨⟩, disk⟩
  · exact ⟨by simp, .inl ⟨e, congrArg Prod.fst hstore, rfl⟩⟩
  · exact ⟨by simp, .inr ⟨hstore, by simp [Except.map, Outcome.ofText]⟩⟩

/-- What comes after a file with a text leaves its entry as it is, and its output too unless it is one
of a later file. -/
theorem run_keeps_text (throws : Bool) {rest : List Path} {s : BatchState} {text : String}
    {log : List LogRecord} (hkeeps : d.Keeps s.disk) (hfound : ∀ t ∈ template :: rest, d.Found t)
    (hfile : s.disk.isFile template = .ok true)
    (houtcome : b.outcome s.disk template = (.ok (.ofText text), log))
    (hlast : ∀ t ∈ rest, d.regular t → b.target? d t ≠ b.target? d template) :
    let whole := b.run throws (template :: rest) s
    (template, Outcome.ofText text) ∈ whole.2.results
      ∧ ((∃ e, (b.store s.disk template text).1 = .error e ∧ whole.1 = .error e)
        ∨ ∃ target, outputPath template b.input b.output = .ok target
            ∧ whole.2.disk.file? (d.place target) = some (encodeUtf8 text)) := by
  intro whole
  have hregular : d.regular template := by
    rw [Disk.regular, ← hkeeps.isFile (hfound template List.mem_cons_self), hfile]
  have hstep : b.Spares d [template] s (b.step template s).2 :=
    step_spares hkeeps (List.mem_singleton_self template) hregular
  obtain ⟨hentry, ⟨e, hstore, hrun⟩ | ⟨hstore, hrun⟩⟩ := run_cons_of_text throws rest hfile houtcome
  · rw [show whole = _ from hrun]
    exact ⟨hentry, .inl ⟨e, hstore, rfl⟩⟩
  · have hspares : b.Spares d rest (b.step template s).2 whole.2 := by
      rw [show whole = _ from hrun]
      exact run_spares (hkeeps.trans hstep.keeps)
        (fun t ht => hfound t (List.mem_cons_of_mem template ht)) (List.Subset.refl rest)
    obtain ⟨target, -, htarget, -, -⟩ := store_ok hstore
    have hplace : b.target? d template = some (d.place target) := by rw [target?, htarget]
    refine ⟨hspares.results.subset hentry, .inr ⟨target, htarget, ?_⟩⟩
    rw [hspares.files _ fun t ht hregular => hplace ▸ hlast t ht hregular,
      (store_writes hstore).files, written_of_keeps hkeeps]
    simp [written, leaves, hplace, Outcome.ofText]

end Batch

section

variable {flags : Flags} {options : BatchOptions} {input output : Path} {d : Disk} {b : Batch}
  {templates : List Path}

theorem prepare_found (hd : d.tree.WellFormed)
    (h : prepare flags options input output d = .ok (b, templates)) : ∀ t ∈ templates, d.Found t := by
  obtain ⟨-, -, pattern, -, -, -, hpaths, -⟩ := prepare_eq_ok_iff.mp h
  obtain ⟨-, -, hselected⟩ := Glob.Pattern.paths_ok hd hpaths
  exact fun t ht => (hselected t ht).1

theorem prepare_nodup (hd : d.tree.WellFormed)
    (h : prepare flags options input output d = .ok (b, templates)) : templates.Nodup := by
  obtain ⟨-, -, pattern, -, -, -, hpaths, -⟩ := prepare_eq_ok_iff.mp h
  exact (Glob.Pattern.paths_ok hd hpaths).1

end

/--
A file that a batch has an entry for has been read when the batch came to it. If its bytes were plain
text, the entry is that text with line feeds for line ends, which has the same bytes just if the text
has no carriage return. If no other file has the same output, the text is what is in the output at the
end, even if something else has ended the batch later on; or it could not be stored, and that has
ended the batch. The bytes are those that the file had before the batch, with the output directory
apart from the input directory and a pattern that stays inside.
-/
theorem renderTemplates_copies (flags : Flags) (options : BatchOptions) (input output : Path)
    (d : Disk) (b : Batch) (templates : List Path) (t : Path) (outcome : Outcome)
    (hd : d.tree.WellFormed)
    (hprepare : prepare flags options input output d = .ok (b, templates))
    (hentry : (t, outcome) ∈ (renderTemplates flags options input output d).2.results) :
    let whole := renderTemplates flags options input output d
    ∃ before rest s bytes, templates = before ++ t :: rest
      ∧ b.ComesTo options.throws t before { disk := d } s
      ∧ s.disk.file? (d.place t) = some bytes
      ∧ (d.Apart input output → options.StaysInside → d.file? (d.place t) = some bytes)
      ∧ ∀ text, decodeUtf8 bytes = .ok text →
        (∀ c ∈ segment text, b.engine.options.symbols.kind? c = none) →
        let copy := String.ofList (unifyLineEnds text.toList)
        outcome = .ofText copy ∧ (encodeUtf8 copy = bytes ↔ '\r' ∉ text.toList)
          ∧ ((∀ u ∈ templates, u ≠ t → d.regular u → b.target? d u ≠ b.target? d t) →
            (∃ e, (b.store s.disk t copy).1 = .error e ∧ whole.1 = .error e)
              ∨ ∃ target, outputPath t input output = .ok target
                  ∧ whole.2.disk.file? (d.place target) = some (encodeUtf8 copy)) := by
  intro whole
  obtain ⟨rfl, rfl, -⟩ := prepare_parts hprepare
  have hfound := prepare_found hd hprepare
  have hrun : whole = b.run options.throws templates { disk := d } :=
    renderTemplates_of_prepare options.throws hprepare
  rw [show renderTemplates _ _ _ _ _ = _ from hrun] at hentry
  obtain ⟨before, rest, s, rfl, hcomes, houtcome⟩ :=
    (Batch.exists_comesTo hentry).resolve_left List.not_mem_nil
  have hbefore : b.Spares d before { disk := d } s :=
    hcomes.spares (.refl d) (fun u hu => hfound u (List.mem_append_left _ hu))
      (List.Subset.refl before)
  obtain ⟨bytes, hbytes, -⟩ := Disk.read_of_isFile hcomes.file
  rw [hbefore.keeps.place] at hbytes
  refine ⟨before, rest, s, bytes, rfl, hcomes, hbytes, fun hapart hinside => ?_,
    fun text htext hplain => ?_⟩
  · -- no file before this one has its output where this one is
    have hclear : ∀ u ∈ before, d.regular u → b.target? d u ≠ some (d.place t) := fun u hu _ =>
      prepare_clear hd hapart hinside hprepare (by simp) (by simp [hu])
    rw [← hbytes]
    exact (hbefore.files _ hclear).symm
  · intro copy
    have hcopy : b.outcome s.disk t = (.ok (.ofText copy), []) :=
      Batch.outcome_of_plain hcomes.file (hbefore.keeps.place t ▸ hbytes) htext hplain
    rw [hcopy] at houtcome
    refine ⟨(Except.ok.inj houtcome).symm, encodeUtf8_unifyLineEnds_iff htext, fun hother => ?_⟩
    have hlast : ∀ u ∈ rest, d.regular u → b.target? d u ≠ b.target? d t := by
      intro u hu
      have hne : u ≠ t := by
        rintro rfl
        have hnodup := (List.nodup_append.mp (prepare_nodup hd hprepare)).2.1
        exact (List.nodup_cons.mp hnodup).1 hu
      exact hother u (by simp [hu]) hne
    have hstored := (Batch.run_keeps_text options.throws hbefore.keeps
      (fun u hu => hfound u (List.mem_append_right _ hu)) hcomes.file hcopy hlast).2
    rwa [← hcomes.run_eq, ← hrun] at hstored

/-- An input directory with a text behind a byte order mark, and one with the other line ends; and an
output directory. -/
def Disk.plainFiles : Disk where
  tree := .directory [
    ("i", .directory [("a.tmpl", .file (encodeUtf8 "\ufeffx\ty\n")),
      ("b.tmpl", .file (encodeUtf8 "x\r\ny"))]),
    ("o", .directory [])]

theorem Disk.plainFiles_wellFormed : Disk.plainFiles.tree.WellFormed := by
  have hfile := Tree.wellFormed_file
  have hempty : (Tree.directory []).WellFormed :=
    Tree.wellFormed_directory ⟨.nil, nofun, nofun⟩ nofun
  refine Tree.wellFormed_directory ⟨by decide, by decide, by decide⟩ ?_
  simp only [List.forall_mem_cons, List.not_mem_nil, false_implies, implies_true, and_true]
  refine ⟨Tree.wellFormed_directory ⟨by decide, by decide, by decide⟩ ?_, hempty⟩
  simp only [List.forall_mem_cons, List.not_mem_nil, false_implies, implies_true, and_true]
  exact ⟨hfile _, hfile _⟩

theorem pattern_plainFiles :
    Glob.Pattern.ofText? ({} : BatchOptions).pattern
      = .ok ⟨[.anyDepth, .wild [.star, .char '.', .char 't', .char 'm', .char 'p', .char 'l']],
          false⟩ := rfl

theorem prepare_plainFiles :
    prepare {} {} ⟨"/", ["i"]⟩ ⟨"/", ["o"]⟩ Disk.plainFiles
      = .ok (Batch.sample, [⟨"/", ["i", "a.tmpl"]⟩, ⟨"/", ["i", "b.tmpl"]⟩]) :=
  prepare_sample rfl pattern_plainFiles rfl (.refl _) (by decide)

/-- The byte order mark, the tab and the line feed are in the output as they are in the file. -/
theorem renderTemplates_copies_marked :
    let d := Disk.plainFiles
    let input : Path := ⟨"/", ["i"]⟩
    let output : Path := ⟨"/", ["o"]⟩
    let t : Path := input.child "a.tmpl"
    let templates : List Path := [t, input.child "b.tmpl"]
    let bytes : List UInt8 := [0xEF, 0xBB, 0xBF, 0x78, 0x09, 0x79, 0x0A]
    let whole := renderTemplates {} {} input output d
    d.tree.WellFormed ∧ prepare {} {} input output d = .ok (Batch.sample, templates)
      ∧ (t, Outcome.ofText "\ufeffx\ty\n") ∈ whole.2.results
      ∧ d.file? (d.place t) = some bytes
      ∧ (∀ u ∈ templates, u ≠ t → d.regular u
          → Batch.sample.target? d u ≠ Batch.sample.target? d t)
      ∧ whole.2.disk.file? ["o", "a"] = some bytes := by
  intro d input output t templates bytes whole
  have hwhole : whole = Batch.sample.run false templates { disk := d } :=
    renderTemplates_of_prepare false prepare_plainFiles
  have hentry : (t, Outcome.ofText "\ufeffx\ty\n") ∈ whole.2.results := by
    rw [hwhole]
    decide +kernel
  have hrun : whole.1 = .ok () := by
    rw [hwhole]
    exact toOption_eq_some_iff.mp (by decide +kernel)
  have hbytes : d.file? (d.place t) = some bytes := by decide +kernel
  have htext : decodeUtf8 bytes = .ok "\ufeffx\ty\n" := toOption_eq_some_iff.mp (by decide +kernel)
  have hplain : ∀ c ∈ segment "\ufeffx\ty\n",
      Batch.sample.engine.options.symbols.kind? c = none := by decide +kernel
  have hother : ∀ u ∈ templates, u ≠ t → d.regular u
      → Batch.sample.target? d u ≠ Batch.sample.target? d t := by decide +kernel
  obtain ⟨_, _, _, read, -, -, -, hbefore, hcopies⟩ := renderTemplates_copies {} {} input output d
    Batch.sample templates t _ Disk.plainFiles_wellFormed prepare_plainFiles hentry
  have hinside : ({} : BatchOptions).StaysInside := by
    intro pattern h
    cases pattern_plainFiles.symm.trans h
    rfl
  obtain rfl : read = bytes :=
    Option.some.inj ((hbefore ⟨by decide, by decide⟩ hinside).symm.trans hbytes)
  obtain ⟨-, hsame, hstored⟩ := hcopies _ htext hplain
  refine ⟨Disk.plainFiles_wellFormed, prepare_plainFiles, hentry, hbytes, hother, ?_⟩
  rcases hstored hother with ⟨e, -, hfails⟩ | ⟨target, htarget, hfile⟩
  · cases hrun.symm.trans hfails
  · have hplace : outputPath t input output = .ok ⟨"/", ["o", "a"]⟩ :=
      toOption_eq_some_iff.mp (by decide +kernel)
    cases hplace.symm.trans htarget
    rw [hsame.mpr (by decide +kernel)] at hfile
    exact hfile

/-- A file of plain text is written with other bytes, as one of its two characters for a line end is
left out. -/
theorem renderTemplates_not_exact :
    let d := Disk.plainFiles
    let input : Path := ⟨"/", ["i"]⟩
    let output : Path := ⟨"/", ["o"]⟩
    let t : Path := input.child "b.tmpl"
    let bytes : List UInt8 := [0x78, 0x0D, 0x0A, 0x79]
    let whole := renderTemplates {} {} input output d
    prepare {} {} input output d = .ok (Batch.sample, [input.child "a.tmpl", t])
      ∧ d.regular t ∧ d.file? (d.place t) = some bytes
      ∧ decodeUtf8 bytes = .ok "x\r\ny"
      ∧ (∀ c ∈ segment "x\r\ny", Batch.sample.engine.options.symbols.kind? c = none)
      ∧ Batch.sample.target? d (input.child "a.tmpl") ≠ Batch.sample.target? d t
      ∧ whole.1 = .ok () ∧ (t, Outcome.ofText "x\ny") ∈ whole.2.results
      ∧ whole.2.disk.file? ["o", "b"] = some [0x78, 0x0A, 0x79]
      ∧ whole.2.disk.file? ["o", "b"] ≠ some bytes := by
  intro d input output t bytes whole
  have hwhole : whole = Batch.sample.run false [input.child "a.tmpl", t] { disk := d } :=
    renderTemplates_of_prepare false prepare_plainFiles
  have hfile : whole.2.disk.file? ["o", "b"] = some [0x78, 0x0A, 0x79] := by
    rw [hwhole]
    decide +kernel
  refine ⟨prepare_plainFiles, by decide +kernel, by decide +kernel,
    toOption_eq_some_iff.mp (by decide +kernel), by decide +kernel, by decide +kernel, ?_, ?_, hfile,
    by rw [hfile]; decide⟩
  · rw [hwhole]
    exact toOption_eq_some_iff.mp (by decide +kernel)
  · rw [hwhole]
    decide +kernel

end Stencil
