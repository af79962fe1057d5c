import Stencil.Proofs.Evaluation

/-!
# The nodes that a render comes to

A template has nodes inside nodes, `Node.partsOf` lists them all. A render does not come to each of
them: it stops where a node fails. `Scene.Reaches` says which node it comes to, and on which run, so
that a statement about the nodes that are evaluated leaves the others out.
-/

namespace Stencil

mutual

/-- A node and all nodes inside it. -/
def Node.parts : Node → List Node
  | .group children filters => .group children filters :: Node.partsOf children
  | .literal text => [.literal text]
  | .variable path filters source => [.variable path filters source]
  | .unknown typeName => [.unknown typeName]

/-- Some nodes and all nodes inside them. -/
def Node.partsOf : List Node → List Node
  | [] => []
  | node :: nodes => node.parts ++ Node.partsOf nodes

end

theorem Node.partsOf_append (xs ys : List Node) :
    Node.partsOf (xs ++ ys) = Node.partsOf xs ++ Node.partsOf ys := by
  induction xs with
  | nil => rfl
  | cons x xs ih => rw [List.cons_append, partsOf, partsOf, ih, List.append_assoc]

theorem Node.mem_parts_self (node : Node) : node ∈ node.parts := by
  cases node <;> simp [parts]

variable {σ : Type}

/-- Rendering the nodes on a run comes to a node on another run: what is before it has a text. -/
inductive Scene.Reaches (scene : Scene σ) : List Node → Run σ → Node → Run σ → Prop
  | here {node : Node} {nodes : List Node} {run : Run σ} :
      Reaches scene (node :: nodes) run node run
  | later {node found : Node} {nodes : List Node} {run run₁ run' : Run σ} {text : String}
      (h : scene.renderNode node run = (.ok text, run₁))
      (hr : Reaches scene nodes run₁ found run') : Reaches scene (node :: nodes) run found run'
  | inside {children nodes : List Node} {filters : List Call} {found : Node} {run run' : Run σ}
      (hr : Reaches scene children run found run') :
      Reaches scene (.group children filters :: nodes) run found run'

theorem Scene.Reaches.mem_partsOf {scene : Scene σ} {nodes : List Node} {found : Node}
    {run run' : Run σ} (h : scene.Reaches nodes run found run') : found ∈ Node.partsOf nodes := by
  induction h with
  | @here node nodes run =>
      rw [Node.partsOf]
      exact List.mem_append_left _ node.mem_parts_self
  | later _ _ ih =>
      rw [Node.partsOf]
      exact List.mem_append_right _ ih
  | inside _ ih =>
      rw [Node.partsOf, Node.parts]
      exact List.mem_append_left _ (List.mem_cons_of_mem _ ih)

/-- What a single node comes to, it comes to with other nodes behind it. -/
theorem Scene.Reaches.of_singleton {scene : Scene σ} {node found : Node} {run run' : Run σ}
    (nodes : List Node) (h : scene.Reaches [node] run found run') :
    scene.Reaches (node :: nodes) run found run' := by
  cases h with
  | here => exact .here
  | later _ hr => cases hr
  | inside hr => exact .inside hr

end Stencil
