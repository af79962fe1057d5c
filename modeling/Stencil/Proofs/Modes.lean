import Stencil.Proofs.Escapes

/-!
# The ways to render

A template is rendered strictly, to a result, or as the options of the engine say. All of them rest on
one strict render: the filters run just once, and what the caller sees is the outcome of that render in
another form (`render_modes`). Only errors of the template are taken back, into a result and into the
log; all other errors are raised in every way. Arguments that are not valid are refused before the
template is looked at, whatever the engine, and a template that cannot be parsed gives its error before
any filter is looked at.
-/

namespace Stencil

variable {σ : Type}

/-! ## Errors of the template -/

/-- The error is one of the template, of the given class: a parse error, an evaluation error, or what a
value of the caller raised itself in a class that belongs to the errors of the template. -/
inductive RenderError.OfTemplate : RenderError → String → Prop
  | parse (error : ParseError) : OfTemplate (.parse (.malformed error)) "ParseError"
  | evaluation {failure : Failure} (h : failure.IsError) :
      OfTemplate (.evaluation failure) "EvaluationError"
  | raised {c : FaultClass} (message : String) (h : c.isTemplate = true) :
      OfTemplate (.evaluation (.fault (.raised c message))) c.name

theorem RenderError.templateClass?_eq_some_iff {error : RenderError} {className : String} :
    error.templateClass? = some className ↔ error.OfTemplate className := by
  constructor
  · intro h
    cases error with
    | arguments => cases h
    | parse failure => cases failure with
      | malformed error =>
          cases h
          exact .parse error
      | pastEnd => cases h
    | evaluation failure => cases failure with
      | fault cause => cases cause with
        | raised c message =>
            rw [templateClass?, Fault.templateClass?] at h
            split at h
            · next hclass =>
                cases h
                exact .raised message hclass
            · cases h
        | exhaustedInside | integerTooLongToWrite | integerTooLongToRead
        | unexpectedParameter | notCallable | unknownParameter | unknownNode => cases h
      | unknownFilter | filterFailed | readFailed =>
          cases h
          exact .evaluation nofun
  · intro h
    cases h with
    | parse error => rfl
    | evaluation hfailure => exact Engine.templateClass?_of_isError hfailure
    | raised message hclass => exact if_pos hclass

theorem RenderError.templateClass?_eq_none_iff {error : RenderError} :
    error.templateClass? = none ↔ ∀ className, ¬error.OfTemplate className := by
  simp only [← templateClass?_eq_some_iff, Option.eq_none_iff_forall_ne_some, ne_eq]

/-! ## Valid arguments -/

/-- The template is a text, and the filters are functions by name. -/
def Arguments.Valid (template : Value) (a : Arguments σ) : Prop :=
  (∃ text, template = .str text) ∧ a.Accepted

theorem Arguments.valid_iff {template : Value} {a : Arguments σ} :
    a.Valid template ↔ ∃ checked, checkArguments template a.filtersOrEmpty = .ok checked := by
  constructor
  · rintro ⟨⟨text, rfl⟩, ha⟩
    exact ⟨_, ha.check text⟩
  · rintro ⟨⟨text, entries⟩, h⟩
    cases template with
    | str found =>
        rcases checkArguments_str a.filtersOrEmpty with ⟨error, hcheck⟩ | ⟨found', hcheck⟩
        · cases (hcheck found).symm.trans h
        · exact ⟨⟨found, rfl⟩, accepted_of_check (hcheck found)⟩
    | none | bool | int | float | bytes | list | tuple | dict | object => cases h

/-! ## The outcome of a strict render in other forms -/

namespace Engine

variable {e : Engine} {flags : Flags} {template : Value} {a : Arguments σ} {run : Run σ}

theorem renderOutcome_of_ok {text : String}
    (h : (e.renderStrict template a run).result = .ok text) :
    e.renderOutcome flags template a run
      = ⟨.ok (.ofText text), (e.renderStrict template a run).run,
          (e.renderStrict template a run).log⟩ := by
  simp only [renderOutcome, h]

/-- What a strict render has for a text, every render has. -/
theorem render_of_ok {run' : Run σ} {text : String}
    (h : e.renderStrict template a run = { result := .ok text, run := run' }) (flags : Flags) :
    e.render flags template a run = { result := .ok text, run := run' } := by
  have houtcome : e.renderOutcome flags template a run = ⟨.ok (.ofText text), run', []⟩ := by
    rw [renderOutcome_of_ok (congrArg Report.result h), h]
  rw [render, houtcome, h]
  cases e.options.throws <;> rfl

theorem renderOutcome_of_template {error : RenderError} {className : String}
    (h : (e.renderStrict template a run).result = .error error) (herror : error.OfTemplate className) :
    e.renderOutcome flags template a run
      = ⟨.ok (.ofError error.message), (e.renderStrict template a run).run,
          (e.renderStrict template a run).log
            ++ flags.debug s!"Render failed with {className}: {error.message}"⟩ := by
  simp only [renderOutcome, h, RenderError.templateClass?_eq_some_iff.mpr herror]

theorem renderOutcome_of_other {error : RenderError}
    (h : (e.renderStrict template a run).result = .error error)
    (herror : ∀ className, ¬error.OfTemplate className) :
    e.renderOutcome flags template a run
      = ⟨.error error, (e.renderStrict template a run).run,
          (e.renderStrict template a run).log⟩ := by
  simp only [renderOutcome, h, RenderError.templateClass?_eq_none_iff.mpr herror]

/-- A strict render has a text, raises an error of the template, or raises another error. -/
theorem renderStrict_cases (e : Engine) (template : Value) (a : Arguments σ) (run : Run σ) :
    (∃ text, (e.renderStrict template a run).result = .ok text)
      ∨ (∃ error className, (e.renderStrict template a run).result = .error error
          ∧ error.OfTemplate className)
      ∨ ∃ error, (e.renderStrict template a run).result = .error error
          ∧ ∀ className, ¬error.OfTemplate className := by
  cases (e.renderStrict template a run).result with
  | ok text => exact .inl ⟨text, rfl⟩
  | error error =>
      by_cases h : ∃ className, error.OfTemplate className
      · obtain ⟨className, h⟩ := h
        exact .inr (.inl ⟨error, className, rfl, h⟩)
      · exact .inr (.inr ⟨error, rfl, not_exists.mp h⟩)

theorem renderStrict_log (e : Engine) (template : Value) (a : Arguments σ) (run : Run σ) :
    (e.renderStrict template a run).log = [] := by
  unfold renderStrict
  split
  · rfl
  · split <;> rfl

/-- Without raising errors a render shows the text of the result, which is empty if it failed. -/
theorem render_result (hthrows : e.options.throws = false) :
    (e.render flags template a run).result
      = (e.renderOutcome flags template a run).result.map Outcome.text := by
  simp only [render, hthrows]
  cases (e.renderOutcome flags template a run).result <;> rfl

/-- Without raising errors, a render complains about an error of the template after that is logged. -/
theorem render_log_of_template {error : RenderError} {className : String}
    (hthrows : e.options.throws = false)
    (h : (e.renderStrict template a run).result = .error error) (herror : error.OfTemplate className) :
    (e.render flags template a run).log
      = (e.renderOutcome flags template a run).log
        ++ flags.complain s!"Template could not be rendered: {error.message}" := by
  simp only [render, hthrows, renderOutcome_of_template h herror]
  rfl

theorem renderOutcome_run :
    (e.renderOutcome flags template a run).run = (e.renderStrict template a run).run := by
  rcases e.renderStrict_cases template a run with
    ⟨text, h⟩ | ⟨error, className, h, herror⟩ | ⟨error, h, hother⟩
  · rw [renderOutcome_of_ok h]
  · rw [renderOutcome_of_template h herror]
  · rw [renderOutcome_of_other h hother]

theorem render_run : (e.render flags template a run).run = (e.renderStrict template a run).run := by
  unfold render
  split
  · rfl
  · simp only
    split <;> exact renderOutcome_run

/-- Nothing is logged unless there is an error of the template. -/
theorem logs_nil (h : ∀ error className, (e.renderStrict template a run).result = .error error →
      ¬error.OfTemplate className) :
    (e.renderOutcome flags template a run).log = [] ∧ (e.render flags template a run).log = [] := by
  have hlog := renderStrict_log e template a run
  unfold render
  rcases e.renderStrict_cases template a run with
    ⟨text, hstrict⟩ | ⟨error, className, hstrict, herror⟩ | ⟨error, hstrict, hother⟩
  · rw [renderOutcome_of_ok hstrict]
    refine ⟨hlog, ?_⟩
    split
    · exact hlog
    · simp only [hlog, Outcome.ofText, List.append_nil]
  · exact absurd herror (h error className hstrict)
  · rw [renderOutcome_of_other hstrict hother]
    refine ⟨hlog, ?_⟩
    split <;> exact hlog

/-! ## All ways at once -/

/-- What the ways to render have in common with a strict render. -/
structure ModesAgree (e : Engine) (flags : Flags) (template : Value) (a : Arguments σ)
    (run : Run σ) : Prop where
  /-- A result has a text just if the strict render has it. -/
  text_iff (text : String) :
    (e.renderOutcome flags template a run).result = .ok (.ofText text)
      ↔ (e.renderStrict template a run).result = .ok text
  /-- A result has failed just if the strict render raises an error of the template. -/
  failed_iff (message : String) :
    (e.renderOutcome flags template a run).result = .ok (.ofError message)
      ↔ ∃ error className, (e.renderStrict template a run).result = .error error
          ∧ error.OfTemplate className ∧ error.message = message
  /-- All other errors are raised, the same as by the strict render. -/
  raised_iff (error : RenderError) :
    (e.renderOutcome flags template a run).result = .error error
      ↔ (e.renderStrict template a run).result = .error error
          ∧ ∀ className, ¬error.OfTemplate className
  call : e.call flags template a run = e.render flags template a run
  throwing : e.options.throws = true →
    e.render flags template a run = e.renderStrict template a run
  quiet : e.options.throws = false →
    (e.render flags template a run).result
      = (e.renderOutcome flags template a run).result.map Outcome.text
  /-- A text is that of the strict render, or it is empty in place of an error of the template. -/
  whole (text : String) : (e.render flags template a run).result = .ok text →
    (e.renderStrict template a run).result = .ok text
      ∨ text = "" ∧ ∃ error className, (e.renderStrict template a run).result = .error error
          ∧ error.OfTemplate className
  /-- The filters run once, and in the same way. -/
  runs : (e.renderOutcome flags template a run).run = (e.renderStrict template a run).run
    ∧ (e.render flags template a run).run = (e.renderStrict template a run).run
  strict_log : (e.renderStrict template a run).log = []
  /-- An error of the template is logged once, and complained about once if it is not raised. -/
  error_log (error : RenderError) (className : String) :
    (e.renderStrict template a run).result = .error error → error.OfTemplate className →
      let traced : LogRecord := ⟨.debug, s!"Render failed with {className}: {error.message}"⟩
      let complained : LogRecord := ⟨.error, s!"Template could not be rendered: {error.message}"⟩
      (e.renderOutcome flags template a run).log = (if flags.beQuiet then [] else [traced])
        ∧ (e.options.throws = false → (e.render flags template a run).log
            = (if flags.beQuiet then [] else [traced])
              ++ if flags.noComplain then [] else [complained])
  /-- Nothing else is logged. -/
  no_log : (∀ error className, (e.renderStrict template a run).result = .error error →
      ¬error.OfTemplate className) →
    (e.renderOutcome flags template a run).log = [] ∧ (e.render flags template a run).log = []

theorem outcome_iff (e : Engine) (flags : Flags) (template : Value) (a : Arguments σ)
    (run : Run σ) :
    (∀ text, (e.renderOutcome flags template a run).result = .ok (.ofText text)
        ↔ (e.renderStrict template a run).result = .ok text)
      ∧ (∀ message, (e.renderOutcome flags template a run).result = .ok (.ofError message)
        ↔ ∃ error className, (e.renderStrict template a run).result = .error error
            ∧ error.OfTemplate className ∧ error.message = message)
      ∧ ∀ error, (e.renderOutcome flags template a run).result = .error error
        ↔ (e.renderStrict template a run).result = .error error
            ∧ ∀ className, ¬error.OfTemplate className := by
  rcases e.renderStrict_cases template a run with
    ⟨text, h⟩ | ⟨error, className, h, herror⟩ | ⟨error, h, hother⟩
  · rw [renderOutcome_of_ok h, h]
    simp [Outcome.ofText, Outcome.ofError]
  · rw [renderOutcome_of_template h herror, h]
    refine ⟨fun text => by simp [Outcome.ofText, Outcome.ofError], fun message => ?_, fun found => ?_⟩
    · simp only [Outcome.ofError, Except.ok.injEq, Outcome.mk.injEq, Option.some.injEq, true_and,
        and_true, Except.error.injEq]
      exact ⟨fun hmessage => ⟨error, className, rfl, herror, hmessage⟩,
        fun ⟨_, _, heq, _, hmessage⟩ => heq ▸ hmessage⟩
    · refine ⟨nofun, fun ⟨heq, hnone⟩ => ?_⟩
      cases heq
      exact absurd herror (hnone className)
  · rw [renderOutcome_of_other h hother, h]
    refine ⟨fun text => by simp, fun message => ?_, fun found => ?_⟩
    · refine ⟨nofun, fun ⟨_, className, heq, herror, _⟩ => ?_⟩
      cases heq
      exact absurd herror (hother className)
    · constructor
      · intro heq
        cases heq
        exact ⟨rfl, hother⟩
      · rintro ⟨heq, -⟩
        cases heq
        rfl

theorem render_whole {text : String} (h : (e.render flags template a run).result = .ok text) :
    (e.renderStrict template a run).result = .ok text
      ∨ text = "" ∧ ∃ error className, (e.renderStrict template a run).result = .error error
          ∧ error.OfTemplate className := by
  cases hthrows : e.options.throws with
  | true =>
      rw [render, hthrows] at h
      exact .inl h
  | false =>
      rw [render_result hthrows] at h
      rcases e.renderStrict_cases template a run with
        ⟨text', hstrict⟩ | ⟨error, className, hstrict, herror⟩ | ⟨error, hstrict, hother⟩
      · rw [renderOutcome_of_ok hstrict] at h
        cases h
        exact .inl hstrict
      · rw [renderOutcome_of_template hstrict herror] at h
        cases h
        exact .inr ⟨rfl, error, className, hstrict, herror⟩
      · rw [renderOutcome_of_other hstrict hother] at h
        cases h

theorem modesAgree (e : Engine) (flags : Flags) (template : Value) (a : Arguments σ)
    (run : Run σ) : e.ModesAgree flags template a run where
  text_iff := (outcome_iff e flags template a run).1
  failed_iff := (outcome_iff e flags template a run).2.1
  raised_iff := (outcome_iff e flags template a run).2.2
  call := rfl
  throwing hthrows := if_pos hthrows
  quiet := render_result
  whole _ := render_whole
  runs := ⟨renderOutcome_run, render_run⟩
  strict_log := renderStrict_log e template a run
  error_log error className h herror := by
    have houtcome : (e.renderOutcome flags template a run).log
        = flags.debug s!"Render failed with {className}: {error.message}" := by
      rw [renderOutcome_of_template h herror, renderStrict_log, List.nil_append]
    exact ⟨houtcome, fun hthrows => by
      rw [render_log_of_template hthrows h herror, houtcome]
      rfl⟩
  no_log := logs_nil

/-! ## Errors before the rendering -/

/-- Arguments that are not valid are refused by one error, whatever the engine and so the symbols. -/
theorem renderStrict_of_not_valid {template : Value} {a : Arguments σ} (h : ¬a.Valid template) :
    ∃ error, ∀ (e : Engine) (run : Run σ),
      e.renderStrict template a run = { result := .error (.arguments error), run } := by
  rw [Arguments.valid_iff] at h
  cases hcheck : checkArguments template a.filtersOrEmpty with
  | ok checked => exact absurd ⟨checked, hcheck⟩ h
  | error error => exact ⟨error, fun e run => by simp only [renderStrict, hcheck]⟩

theorem not_ofTemplate_arguments (error : ArgumentError) (className : String) :
    ¬(RenderError.arguments error).OfTemplate className := nofun

/-- Every way to render raises the error and leaves the filters alone. -/
theorem raises_of_renderStrict {error : RenderError} (h : e.renderStrict template a run
      = { result := .error error, run }) (herror : ∀ className, ¬error.OfTemplate className) :
    e.renderOutcome flags template a run = { result := .error error, run }
      ∧ e.render flags template a run = { result := .error error, run } := by
  have hresult : (e.renderStrict template a run).result = .error error := by rw [h]
  have houtcome : e.renderOutcome flags template a run = { result := .error error, run } := by
    rw [renderOutcome_of_other hresult herror, h]
  refine ⟨houtcome, ?_⟩
  unfold render
  split
  · exact h
  · rw [houtcome]

end Engine

/--
All ways to render agree on one strict render. Arguments that are not valid are refused in every way
by one error, for every engine and hence before the symbols have been looked for; and a template
without nodes gives its parse error with all valid arguments, and no filter runs.
-/
theorem render_modes (e : Engine) (flags : Flags) (template : Value) :
    (∀ {σ : Type} (a : Arguments σ) (run : Run σ), e.ModesAgree flags template a run)
      ∧ (∀ {σ : Type} (a : Arguments σ), ¬a.Valid template → ∃ error, ∀ (e' : Engine) (run : Run σ),
          e'.renderStrict template a run = { result := .error (.arguments error), run }
            ∧ e'.renderOutcome flags template a run = { result := .error (.arguments error), run }
            ∧ e'.render flags template a run = { result := .error (.arguments error), run })
      ∧ ∀ text error, template = .str text → e.compile template = .error error →
          error.OfTemplate "ParseError" ∧ ∀ {σ : Type} (a : Arguments σ) (run : Run σ), a.Accepted →
            e.renderStrict template a run = { result := .error error, run }
              ∧ (e.renderOutcome flags template a run).run = run
              ∧ (e.render flags template a run).run = run := by
  refine ⟨fun a run => Engine.modesAgree e flags template a run, fun a hvalid => ?_, ?_⟩
  · obtain ⟨error, hstrict⟩ := Engine.renderStrict_of_not_valid hvalid
    exact ⟨error, fun e' run => ⟨hstrict e' run,
      Engine.raises_of_renderStrict (hstrict e' run) (Engine.not_ofTemplate_arguments error)⟩⟩
  · rintro text error rfl hcompile
    obtain ⟨malformed, rfl⟩ := Engine.malformed_of_compile_error hcompile
    refine ⟨.parse malformed, fun a run ha => ?_⟩
    have hstrict := Engine.renderStrict_of_compile_error ha hcompile run
    refine ⟨hstrict, ?_, ?_⟩
    · rw [Engine.renderOutcome_run, hstrict]
    · rw [Engine.render_run, hstrict]

/-- A context with one name and no filters. -/
def Arguments.named : Arguments Unit where
  context := .dict [("name", .str "ada")]
  filters := .absent

/-- An unknown filter is logged and complained about, a number is no template, and an open variable is
a parse error before its name is looked up. -/
theorem render_modes_unknownFilter :
    let run : Run Unit := ⟨(), []⟩
    let unmatched : RenderError :=
      .parse (.malformed ⟨.unmatched "Unmatched variable start", "\x7bname"⟩)
    Engine.plain.ModesAgree {} (.str "\x7bname|nope\x7d") .named run
      ∧ (Engine.plain.render {} (.str "\x7bname|nope\x7d") .named run).log
        = [⟨.debug, "Render failed with EvaluationError: Unknown filter: nope"⟩,
          ⟨.error, "Template could not be rendered: Unknown filter: nope"⟩]
      ∧ ¬Arguments.named.Valid (.int 1)
      ∧ (∃ error, Engine.plain.renderStrict (.int 1) .named run
          = { result := .error (.arguments error), run })
      ∧ Engine.plain.compile (.str "\x7bname") = .error unmatched ∧ Arguments.named.Accepted
      ∧ Engine.plain.renderStrict (.str "\x7bname") .named run
          = { result := .error unmatched, run } := by
  intro run unmatched
  have hvalid : ¬Arguments.named.Valid (.int 1) := by
    rintro ⟨⟨text, h⟩, -⟩
    cases h
  have hcompile : Engine.plain.compile (.str "\x7bname") = .error unmatched := rfl
  have haccepted : Arguments.named.Accepted := ⟨[], rfl, by simp [Registry.Callable]⟩
  obtain ⟨error, herror⟩ := (render_modes Engine.plain {} (.int 1)).2.1 .named hvalid
  refine ⟨(render_modes Engine.plain {} _).1 .named run, by decide +kernel, hvalid,
    ⟨error, (herror Engine.plain run).1⟩, hcompile, haccepted, ?_⟩
  exact (((render_modes Engine.plain {} _).2.2 "\x7bname" unmatched rfl hcompile).2
    .named run haccepted).1

end Stencil
