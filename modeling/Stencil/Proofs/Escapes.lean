import Stencil.Proofs.Compilation
import Stencil.Proofs.Reading

/-!
# What a render raises

A strict render gives a text, or raises a parse error or an evaluation error, or else a fault that
nothing accounts for. There are two places for such a fault. A step on the way along the path of a
variable raises it (`Value.StepRaises`): an index of too many digits is read against a sequence, or an
object raises something when its type is tested or, if it is a mapping or a sequence of the caller's
own, when it is asked for a key or an index. Or the text of the value that a variable or a group ends
up with cannot be had. Everything else that fails is caught: a filter with its parameter, an attribute,
a parameter in the template. `renderStrict_contained` puts this together.

Which faults leave a list of nodes is said exactly, in both directions: those of the nodes that the
render comes to (`Scene.renderNodes_fault_iff`).
-/

namespace Stencil

/-! ## Failures that are accounted for -/

/-- The failure is an evaluation error: an unknown filter, a filter that failed, or an attribute. -/
def Failure.IsError (failure : Failure) : Prop :=
  ∀ cause, failure ≠ .fault cause

variable {σ : Type} {scene : Scene σ}

theorem Scene.param_error {call : Call} {failure : Failure}
    (h : scene.param call = .error failure) : failure.IsError := by
  unfold param at h
  split at h
  · cases h
  · next p _ =>
      cases hp : p.resolve scene.context with
      | ok value => rw [hp] at h; cases h
      | error cause => rw [hp] at h; cases h; nofun

theorem Filter.invoke_error {name : String} {filter : Filter σ} {value : Value}
    {param : Option Value} {run : Run σ} {failure : Failure}
    (h : (filter.invoke name value param run).1 = .error failure) : failure.IsError := by
  unfold invoke at h
  revert h
  rcases filter value param run.state with ⟨cause | result, state⟩
  · rintro ⟨⟩
    nofun
  · nofun

/-- A filter call that fails is an evaluation error, whatever the reason. -/
theorem Scene.applyCall_error {value : Value} {call : Call} {run : Run σ} {failure : Failure}
    (h : (scene.applyCall value call run).1 = .error failure) : failure.IsError := by
  unfold applyCall at h
  simp only [bind, ExceptT.bind, ExceptT.mk] at h
  revert h
  rcases scene.filters.get? call.name with _ | (filter | v)
  · rintro ⟨⟩
    nofun
  · cases hparam : scene.param call with
    | error cause =>
        rintro ⟨⟩
        exact param_error hparam
    | ok param => exact Filter.invoke_error
  · cases v with
    | none =>
        rintro ⟨⟩
        nofun
    | bool | int | float | str | bytes | list | tuple | dict | object =>
        cases hparam : scene.param call with
        | error cause =>
            rintro ⟨⟩
            exact param_error hparam
        | ok param =>
            rintro ⟨⟩
            nofun

theorem Scene.applyCalls_error {value : Value} {calls : List Call} {run : Run σ}
    {failure : Failure} (h : (scene.applyCalls value calls run).1 = .error failure) :
    failure.IsError := by
  induction calls generalizing value run with
  | nil => cases h
  | cons call calls ih =>
      simp only [applyCalls, bind, ExceptT.bind, ExceptT.mk, StateT.bind] at h
      rcases hcall : scene.applyCall value call run with ⟨cause | result, run'⟩
      · rw [hcall] at h
        cases h
        exact applyCall_error (by rw [hcall])
      · rw [hcall] at h
        exact ih h

/-! ## Faults of nodes -/

/-- The value that is shown for a node that has one: what the filters make of it. -/
inductive Scene.Shows (scene : Scene σ) : Node → Run σ → Value → Prop
  | variable {path : List String} {filters : List Call} {source : String} {found final : Value}
      {run run' : Run σ} (hpath : scene.context.resolve? path = .ok (some found))
      (hcalls : scene.applyCalls found filters run = (.ok final, run')) :
      Shows scene (.variable path filters source) run final
  | group {children : List Node} {filters : List Call} {text : String} {final : Value}
      {run run₁ run₂ : Run σ} (htext : scene.renderNodes children run = (.ok text, run₁))
      (hcalls : scene.applyCalls (.str text) filters run₁ = (.ok final, run₂)) :
      Shows scene (.group children filters) run final

/-- The fault that a node raises itself: a step on its path raises it, or the text of the value that
it shows cannot be had. -/
inductive Scene.Raises (scene : Scene σ) : Node → Run σ → Fault → Prop
  | walk {path : List String} {filters : List Call} {source : String} {run : Run σ} {fault : Fault}
      (h : scene.context.WalkRaises path fault) :
      Raises scene (.variable path filters source) run fault
  | text {node : Node} {run : Run σ} {final : Value} {fault : Fault}
      (hshows : scene.Shows node run final) (htext : final.shown = .error fault) :
      Raises scene node run fault

@[simp] theorem Fault.outside_outside (fault : Fault) : fault.outside.outside = fault.outside := by
  cases fault with
  | raised c message => cases h : c.isExhausted <;> simp [outside, h]
  | exhaustedInside | integerTooLongToWrite | integerTooLongToRead | unexpectedParameter
  | notCallable | unknownParameter | unknownNode => rfl

theorem Failure.outside_fault (fault : Fault) :
    (Failure.fault fault).outside = .fault fault.outside := rfl

theorem Failure.outside_eq_fault {failure : Failure} {cause : Fault}
    (h : failure.outside = .fault cause) :
    ∃ fault, failure = .fault fault ∧ cause = fault.outside := by
  cases failure with
  | fault fault =>
      rw [outside_fault, Failure.fault.injEq] at h
      exact ⟨fault, rfl, h.symm⟩
  | unknownFilter | filterFailed | readFailed => cases h

namespace Scene

theorem showFiltered_fault_iff {value : Value} {calls : List Call} {run : Run σ} {cause : Fault} :
    (scene.showFiltered value calls run).1 = .error (.fault cause)
      ↔ ∃ final run', scene.applyCalls value calls run = (.ok final, run')
          ∧ final.shown = .error cause := by
  rw [showFiltered_run]
  rcases hcalls : scene.applyCalls value calls run with ⟨failure | final, run'⟩
  · have herror : failure.IsError := applyCalls_error (by rw [hcalls])
    constructor
    · intro h
      exact absurd (Except.error.inj h) (herror cause)
    · rintro ⟨final, run'', h, -⟩
      cases h
  · have hfault : final.shown.mapError Failure.fault = .error (.fault cause)
        ↔ final.shown = .error cause :=
      mapError_eq_error_iff fun _ _ => Failure.fault.inj
    refine hfault.trans ⟨fun hshown => ⟨final, run', rfl, hshown⟩, ?_⟩
    rintro ⟨final', run'', h, hshown⟩
    cases h
    exact hshown

theorem renderNode_variable_fault_iff {path : List String} {filters : List Call} {source : String}
    {run : Run σ} {cause : Fault} :
    (scene.renderNode (.variable path filters source) run).1 = .error (.fault cause)
      ↔ scene.Raises (.variable path filters source) run cause := by
  rw [renderNode_variable_run]
  constructor
  · intro h
    rcases hpath : scene.context.resolve? path with failure | (_ | found)
    · rw [hpath] at h
      cases h
      exact .walk (Value.resolve?_fault_iff.mp hpath)
    · rw [hpath] at h
      cases h
    · rw [hpath] at h
      obtain ⟨final, run', hcalls, hshown⟩ := showFiltered_fault_iff.mp h
      exact .text (.variable hpath hcalls) hshown
  · intro h
    cases h with
    | walk hwalk => rw [Value.resolve?_fault_iff.mpr hwalk]
    | text hshows hshown => cases hshows with
      | «variable» hpath hcalls =>
          rw [hpath]
          exact showFiltered_fault_iff.mpr ⟨_, _, hcalls, hshown⟩

/-- The faults of a group are those inside it and those that it raises itself. -/
theorem renderNode_group_fault_iff {children : List Node} {filters : List Call} {run : Run σ}
    {cause : Fault} :
    (scene.renderNode (.group children filters) run).1 = .error (.fault cause)
      ↔ (scene.renderNodes children run).1 = .error (.fault cause)
        ∨ scene.Raises (.group children filters) run cause := by
  rw [renderNode_group_run]
  rcases hchildren : scene.renderNodes children run with ⟨failure | text, run₁⟩
  · constructor
    · exact .inl
    · rintro (h | h)
      · exact h
      · cases h with
        | text hshows => cases hshows with
          | group htext => cases hchildren.symm.trans htext
  · constructor
    · intro h
      obtain ⟨final, run', hcalls, hshown⟩ := showFiltered_fault_iff.mp h
      exact .inr (.text (.group hchildren hcalls) hshown)
    · rintro (h | h)
      · cases h
      · cases h with
        | text hshows hshown => cases hshows with
          | group htext hcalls =>
              cases hchildren.symm.trans htext
              exact showFiltered_fault_iff.mpr ⟨_, _, hcalls, hshown⟩

/-- A node that the render comes to raises a fault, as `raises` says, and this leaves the render as
`leaving` makes of it. -/
def Escapes (scene : Scene σ) (raises : Scene σ → Node → Run σ → Fault → Prop)
    (leaving : Fault → Fault) (nodes : List Node) (run : Run σ) (cause : Fault) : Prop :=
  ∃ node run' fault, scene.Reaches nodes run node run' ∧ raises scene node run' fault
    ∧ cause = leaving fault

/-- Nothing among the nodes is no node. -/
def Known (nodes : List Node) : Prop :=
  ∀ typeName, .unknown typeName ∉ Node.partsOf nodes

mutual

theorem escapes_of_renderNode : ∀ (node : Node) (run : Run σ) {fault : Fault}, Known [node] →
    (scene.renderNode node run).1 = .error (.fault fault) →
    scene.Escapes Raises Fault.outside [node] run fault.outside
  | .literal _, _, _, _, h => by cases h
  | .unknown typeName, _, _, hknown, _ =>
      absurd (by simp [Node.partsOf, Node.parts]) (hknown typeName)
  | .variable _ _ _, run, fault, _, h =>
      ⟨_, run, fault, .here, renderNode_variable_fault_iff.mp h, rfl⟩
  | .group children filters, run, fault, hknown, h => by
      rcases renderNode_group_fault_iff.mp h with hchildren | hraises
      · have hknown' : Known children := fun typeName hmem =>
          hknown typeName (by simp [Node.partsOf, Node.parts, hmem])
        obtain ⟨found, run', fault', hr, hraises, rfl⟩ :=
          escapes_of_renderNodes children run hknown' hchildren
        exact ⟨found, run', fault', .inside hr, hraises, Fault.outside_outside fault'⟩
      · exact ⟨_, run, fault, .here, hraises, rfl⟩

theorem escapes_of_renderNodes : ∀ (nodes : List Node) (run : Run σ) {cause : Fault}, Known nodes →
    (scene.renderNodes nodes run).1 = .error (.fault cause) →
    scene.Escapes Raises Fault.outside nodes run cause
  | [], _, _, _, h => by cases h
  | node :: nodes, run, cause, hknown, h => by
      rcases hnode : scene.renderNode node run with ⟨failure | text, run₁⟩
      · -- the fault is that of the first node, as it leaves the iteration
        rw [renderNodes_cons_error (by rw [hnode])] at h
        obtain ⟨fault, rfl, rfl⟩ := Failure.outside_eq_fault (Except.error.inj h)
        have hknown' : Known [node] := fun typeName hmem =>
          hknown typeName (by
            rw [Node.partsOf, Node.partsOf, List.append_nil] at hmem
            exact List.mem_append_left _ hmem)
        obtain ⟨found, run', fault', hr, hraises, heq⟩ :=
          escapes_of_renderNode node run hknown' (by rw [hnode])
        exact ⟨found, run', fault', hr.of_singleton nodes, hraises, heq⟩
      · -- the first node has a text, so the fault is that of a later one
        rw [renderNodes_cons_error_iff hnode] at h
        have hknown' : Known nodes := fun typeName hmem =>
          hknown typeName (List.mem_append_right _ hmem)
        obtain ⟨found, run', fault, hr, hraises, heq⟩ :=
          escapes_of_renderNodes nodes run₁ hknown' h
        exact ⟨found, run', fault, .later hnode hr, hraises, heq⟩

end

/-- What a node that the render comes to raises ends the render. -/
theorem renderNodes_of_raises {nodes : List Node} {found : Node} {run run' : Run σ} {fault : Fault}
    (hr : scene.Reaches nodes run found run') (hraises : scene.Raises found run' fault) :
    (scene.renderNodes nodes run).1 = .error (.fault fault.outside) := by
  induction hr with
  | @here node nodes run =>
      have hnode : (scene.renderNode node run).1 = .error (.fault fault) := by
        cases node with
        | «variable» => exact renderNode_variable_fault_iff.mpr hraises
        | group => exact renderNode_group_fault_iff.mpr (.inr hraises)
        | literal | unknown => cases hraises with
          | text hshows => cases hshows
      rw [renderNodes_cons_error hnode, Failure.outside_fault]
  | later h _ ih => exact (renderNodes_cons_error_iff h).mpr (ih hraises)
  | @inside children nodes filters found run run' _ ih =>
      have hgroup : (scene.renderNode (.group children filters) run).1
          = .error (.fault fault.outside) :=
        renderNode_group_fault_iff.mpr (.inl (ih hraises))
      rw [renderNodes_cons_error hgroup, Failure.outside_fault, Fault.outside_outside]

/-- The faults that leave nodes are just those of the nodes that the render comes to. -/
theorem renderNodes_fault_iff {nodes : List Node} {run : Run σ} {cause : Fault}
    (hknown : Known nodes) :
    (scene.renderNodes nodes run).1 = .error (.fault cause)
      ↔ scene.Escapes Raises Fault.outside nodes run cause := by
  constructor
  · exact escapes_of_renderNodes nodes run hknown
  · rintro ⟨found, run', fault, hr, hraises, rfl⟩
    exact renderNodes_of_raises hr hraises

end Scene

/-! ## Engines -/

namespace Engine

variable {e : Engine} {template : String} {a : Arguments σ} {run : Run σ}

/-- A fault leaves the render of a template: a node raises it, as `raises` says, and it leaves as
`leaving` makes of it. -/
def Escapes (e : Engine) (raises : Scene σ → Node → Run σ → Fault → Prop)
    (leaving : Fault → Fault) (template : String) (a : Arguments σ) (run : Run σ)
    (cause : Fault) : Prop :=
  ∃ nodes, e.compile (.str template) = .ok nodes
    ∧ (e.scene a).Escapes raises leaving nodes run cause

/-- A strict render has a text, or raises a parse error or an evaluation error, or else one of the
faults that escape. -/
def Contained (e : Engine) (raises : Scene σ → Node → Run σ → Fault → Prop)
    (leaving : Fault → Fault) (template : String) (a : Arguments σ) (run : Run σ) : Prop :=
  let result := (e.renderStrict (.str template) a run).result
  (∃ text, result = .ok text)
    ∨ (∃ error, result = .error (.parse (.malformed error)))
    ∨ (∃ failure, result = .error (.evaluation failure) ∧ failure.IsError)
    ∨ ∃ cause, result = .error (.evaluation (.fault cause))
        ∧ e.Escapes raises leaving template a run cause

theorem known_of_compile {nodes : List Node} (h : e.compile (.str template) = .ok nodes) :
    Scene.Known nodes := by
  intro typeName hm
  cases made_of_compile h hm

theorem renderStrict_fault_iff {cause : Fault} (ha : a.Accepted) :
    (e.renderStrict (.str template) a run).result = .error (.evaluation (.fault cause))
      ↔ e.Escapes Scene.Raises Fault.outside template a run cause := by
  cases hcompile : e.compile (.str template) with
  | error error =>
      rw [renderStrict_of_compile_error ha hcompile]
      obtain ⟨malformed, rfl⟩ := malformed_of_compile_error hcompile
      constructor
      · intro h
        cases h
      · rintro ⟨nodes, h, -⟩
        cases hcompile.symm.trans h
  | ok nodes =>
      rw [renderStrict_of_compile ha hcompile]
      have hresult : ∀ result : Except Failure String,
          result.mapError RenderError.evaluation = .error (.evaluation (.fault cause))
            ↔ result = .error (.fault cause) := fun _ =>
        mapError_eq_error_iff fun _ _ => RenderError.evaluation.inj
      refine (hresult _).trans ((Scene.renderNodes_fault_iff (known_of_compile hcompile)).trans ?_)
      constructor
      · intro h
        exact ⟨nodes, hcompile, h⟩
      · rintro ⟨nodes', h, hescapes⟩
        cases hcompile.symm.trans h
        exact hescapes

theorem contained (ha : a.Accepted) :
    e.Contained Scene.Raises Fault.outside template a run := by
  unfold Contained
  cases hresult : (e.renderStrict (.str template) a run).result with
  | ok text => exact .inl ⟨text, rfl⟩
  | error error =>
      refine .inr ?_
      cases hcompile : e.compile (.str template) with
      | error found =>
          obtain ⟨malformed, rfl⟩ := malformed_of_compile_error hcompile
          rw [renderStrict_of_compile_error ha hcompile] at hresult
          cases hresult
          exact .inl ⟨malformed, rfl⟩
      | ok nodes =>
          have hrender := hresult
          rw [renderStrict_of_compile ha hcompile] at hrender
          rcases hnodes : ((e.scene a).renderNodes nodes run).1 with failure | text
          · rw [hnodes] at hrender
            cases hrender
            by_cases hfailure : failure.IsError
            · exact .inr (.inl ⟨failure, rfl, hfailure⟩)
            · obtain ⟨cause, rfl⟩ : ∃ cause, failure = .fault cause := by
                simpa [Failure.IsError] using hfailure
              exact .inr (.inr ⟨cause, rfl, (renderStrict_fault_iff ha).mp hresult⟩)
          · rw [hnodes] at hrender
            cases hrender

theorem templateClass?_of_isError {failure : Failure} (h : failure.IsError) :
    (RenderError.evaluation failure).templateClass? = some "EvaluationError" := by
  cases failure with
  | fault cause => exact absurd rfl (h cause)
  | unknownFilter | filterFailed | readFailed => rfl

end Engine

/-- An object that cannot be written. -/
def Value.withoutText (cause : Fault) : Value :=
  .object { typeName := "Note", text := .error cause, inner := .error cause }

end Stencil
