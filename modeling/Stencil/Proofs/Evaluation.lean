import Stencil.Engine
import Stencil.Proofs.Transitions

/-!
# Rendering one list of nodes after another

Nodes are rendered from left to right, and each of them for itself: what the nodes before it leave is
the run of the filters and a text. So a list of nodes renders as its parts do, one after the other
(`renderNodes_append`). The nodes that stand for a text render as that text, also when the text is
empty and there are none (`renderNodes_literalNodes`).
-/

namespace Stencil

open Parse

variable {σ : Type}

/-! ## Texts, one after the other -/

namespace Eval

/-- The text of one computation and then the text of another. -/
def append (x y : Eval σ String) : Eval σ String := do
  let first ← x
  let rest ← y
  pure (first ++ rest)

theorem append_assoc (x y z : Eval σ String) :
    append (append x y) z = append x (append y z) := by
  simp only [append, bind_assoc, pure_bind, String.append_assoc]

@[simp] theorem empty_append (x : Eval σ String) : append (pure "") x = x := by
  simp only [append, pure_bind, String.empty_append, bind_pure]

@[simp] theorem append_empty (x : Eval σ String) : append x (pure "") = x := by
  simp only [append, pure_bind, String.append_empty, bind_pure]

theorem pure_append_pure (a b : String) :
    append (pure a : Eval σ String) (pure b) = pure (a ++ b) := by
  simp only [append, pure_bind]

/-- A failure of the first is the failure of both, and the second is not run. -/
theorem append_run (x y : Eval σ String) (run : Run σ) :
    append x y run =
      match x run with
      | (.error failure, run) => (.error failure, run)
      | (.ok first, run) => ((y run).1.map (first ++ ·), (y run).2) := by
  simp only [append, bind, ExceptT.bind, ExceptT.mk, StateT.bind]
  rcases hx : x run with ⟨failure | first, run'⟩
  · rfl
  · simp only [ExceptT.bindCont, StateT.bind, bind]
    rcases hy : y run' with ⟨failure | rest, run''⟩ <;> rfl

end Eval

namespace Scene

theorem renderNodes_cons (scene : Scene σ) (node : Node) (nodes : List Node) :
    scene.renderNodes (node :: nodes)
      = .append ((scene.renderNode node).mapFailure Failure.outside) (scene.renderNodes nodes) := by
  rw [renderNodes, Eval.append]

theorem renderNodes_append (scene : Scene σ) (xs ys : List Node) :
    scene.renderNodes (xs ++ ys) = .append (scene.renderNodes xs) (scene.renderNodes ys) := by
  induction xs with
  | nil => rw [List.nil_append, renderNodes, Eval.empty_append]
  | cons x xs ih =>
      rw [List.cons_append, renderNodes_cons, renderNodes_cons, ih, Eval.append_assoc]

theorem renderNodes_literal (scene : Scene σ) (text : String) :
    scene.renderNodes [.literal text] = pure text := by
  rw [renderNodes_cons, renderNodes, Eval.append_empty, renderNode]
  rfl

theorem renderNodes_literalNodes (scene : Scene σ) (text : String) :
    scene.renderNodes (literalNodes text) = pure text := by
  unfold literalNodes
  split
  · next h => rw [renderNodes, String.isEmpty_iff.mp h]
  · exact renderNodes_literal scene text

/-- The placeholder of an empty body shows nothing. -/
theorem renderNodes_bodyOf (scene : Scene σ) (nodes : List Node) :
    scene.renderNodes (bodyOf nodes) = scene.renderNodes nodes := by
  cases nodes with
  | nil => exact (renderNodes_literal scene "").trans (by rw [renderNodes])
  | cons node nodes => rfl

/-! Rendering spelled out, on a given run. -/

theorem showFiltered_run (scene : Scene σ) (value : Value) (calls : List Call) (run : Run σ) :
    scene.showFiltered value calls run =
      match scene.applyCalls value calls run with
      | (.error failure, run) => (.error failure, run)
      | (.ok final, run) => (final.shown.mapError .fault, run) := by
  simp only [showFiltered, bind, ExceptT.bind, ExceptT.mk, StateT.bind]
  rcases scene.applyCalls value calls run with ⟨failure | final, run'⟩ <;> rfl

theorem renderNode_variable_run (scene : Scene σ) (path : List String) (filters : List Call)
    (source : String) (run : Run σ) :
    scene.renderNode (.variable path filters source) run =
      match scene.context.resolve? path with
      | .error failure => (.error failure, run)
      | .ok none => (.ok source, run)
      | .ok (some found) => scene.showFiltered found filters run := by
  simp only [renderNode, bind, ExceptT.bind, ExceptT.mk, StateT.bind, Eval.ofExcept]
  rcases scene.context.resolve? path with failure | (_ | found) <;> rfl

theorem renderNode_group_run (scene : Scene σ) (children : List Node) (filters : List Call)
    (run : Run σ) :
    scene.renderNode (.group children filters) run =
      match scene.renderNodes children run with
      | (.error failure, run) => (.error failure, run)
      | (.ok text, run) => scene.showFiltered (.str text) filters run := by
  simp only [renderNode, bind, ExceptT.bind, ExceptT.mk, StateT.bind]
  rcases scene.renderNodes children run with ⟨failure | text, run'⟩ <;> rfl

theorem renderNodes_cons_run (scene : Scene σ) (node : Node) (nodes : List Node) (run : Run σ) :
    scene.renderNodes (node :: nodes) run =
      match scene.renderNode node run with
      | (.error failure, run) => (.error failure.outside, run)
      | (.ok first, run) =>
        ((scene.renderNodes nodes run).1.map (first ++ ·), (scene.renderNodes nodes run).2) := by
  rw [renderNodes_cons, Eval.append_run, Eval.mapFailure]
  rcases scene.renderNode node run with ⟨failure | first, run'⟩ <;> rfl

/-- A node that fails ends the rendering of the nodes behind it. -/
theorem renderNodes_cons_error {scene : Scene σ} {node : Node} {run : Run σ} {failure : Failure}
    (h : (scene.renderNode node run).1 = .error failure) (nodes : List Node) :
    (scene.renderNodes (node :: nodes) run).1 = .error failure.outside := by
  rw [renderNodes_cons_run]
  rcases hrun : scene.renderNode node run with ⟨cause | text, run'⟩
  · rw [hrun] at h
    cases h
    rfl
  · rw [hrun] at h
    cases h

/-- Behind a node with a text the nodes fail as they do alone. -/
theorem renderNodes_cons_error_iff {scene : Scene σ} {node : Node} {run run' : Run σ} {text : String}
    (h : scene.renderNode node run = (.ok text, run')) {nodes : List Node} {failure : Failure} :
    (scene.renderNodes (node :: nodes) run).1 = .error failure
      ↔ (scene.renderNodes nodes run').1 = .error failure := by
  rw [renderNodes_cons_run, h]
  cases hnodes : (scene.renderNodes nodes run').1 <;> simp [hnodes, Except.map]

end Scene

/-! ## Reports -/

/-- What one render reports and, if it has a text, what the next one reports on the run that the
first leaves. -/
def Report.andThen (first : Report σ String) (next : Run σ → Report σ String) : Report σ String :=
  match first.result with
  | .error _ => first
  | .ok text =>
    let second := next first.run
    { result := second.result.map (text ++ ·)
      run := second.run
      log := first.log ++ second.log }

namespace Engine

variable {e : Engine} {nodes xs ys : List Node} {context : Value} {filters : Registry σ}
  {run run' : Run σ}

end Engine

end Stencil
