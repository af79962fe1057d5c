import Stencil.Filter
import Stencil.Value.Attribute

/-!
# Evaluation

Nodes are rendered from left to right. Filters may change their state and may fail, and every
invocation is recorded before its outcome is known; a failure ends the evaluation and keeps the
state and the record.
-/

namespace Stencil

/-- An invocation of a filter. -/
structure Invocation where
  name : String
  value : Value
  param : Option Value

/-- The state of the filters and the invocations so far, the latest first. -/
structure Run (σ : Type) where
  state : σ
  invocations : List Invocation := []

/-- A computation that invokes filters and may fail. -/
abbrev Eval (σ α : Type) := ExceptT Failure (StateM (Run σ)) α

/-- Something to evaluate with: the context and the filters. -/
structure Scene (σ : Type) where
  context : Value
  filters : Registry σ

/-- Takes over the result of a computation that invokes nothing. -/
def Eval.ofExcept {σ α : Type} (r : Except Failure α) : Eval σ α :=
  fun run => (r, run)

/-- Changes the failure with which a computation ends, if it ends with one. -/
def Eval.mapFailure {σ α : Type} (f : Failure → Failure) (x : Eval σ α) : Eval σ α := fun run =>
  let (result, run) := x run
  (result.mapError f, run)

/-- Invokes a filter under its name. -/
def Filter.invoke {σ : Type} (name : String) (filter : Filter σ) (value : Value)
    (param : Option Value) : Eval σ Value := fun run =>
  let (result, state) := filter value param run.state
  (result.mapError fun cause => .filterFailed name (.fault cause),
    { state, invocations := ⟨name, value, param⟩ :: run.invocations })

/-- The text that a template shows for a value. -/
def Eval.shown {σ : Type} (value : Value) : Eval σ String :=
  .ofExcept (value.shown.mapError .fault)

/--
The value of a parameter. A key that is not in the context stands for its own text.
-/
def Param.resolve (context : Value) : Param → Except Failure Value
  | literal value => .ok value
  | reference key => (context.read? key).map fun found => found.getD (.str key)
  | unknown typeName => .error (.fault (.unknownParameter typeName))

namespace Scene

variable {σ : Type}

/-- The values that a call hands to its filter next to the filtered one. -/
def param (scene : Scene σ) (call : Call) : Except Failure (Option Value) :=
  match call.param with
  | none => .ok none
  | some p => ((p.resolve scene.context).mapError (.filterFailed call.name)).map some

/-- Passes a value through one filter call. -/
def applyCall (scene : Scene σ) (value : Value) (call : Call) : Eval σ Value :=
  match scene.filters.get? call.name with
  | none => throw (.unknownFilter call.name)
  | some (.value .none) => throw (.unknownFilter call.name)
  | some (.value v) => do
    let _ ← Eval.ofExcept (scene.param call)
    throw (.filterFailed call.name (.fault (.notCallable v.typeName)))
  | some (.function filter) => do
    let param ← Eval.ofExcept (scene.param call)
    filter.invoke call.name value param

/-- Passes a value through filter calls, one after the other. -/
def applyCalls (scene : Scene σ) (value : Value) : List Call → Eval σ Value
  | [] => pure value
  | call :: calls => do
    let value ← scene.applyCall value call
    scene.applyCalls value calls

/-- Filters a value and shows the result. -/
def showFiltered (scene : Scene σ) (value : Value) (calls : List Call) : Eval σ String := do
  let value ← scene.applyCalls value calls
  Eval.shown value

mutual

/-- The text of a node. -/
def renderNode (scene : Scene σ) : Node → Eval σ String
  | .literal text => pure text
  | .variable path filters source => do
    match ← Eval.ofExcept (scene.context.resolve? path) with
    | none => pure source
    | some value => scene.showFiltered value filters
  | .group children filters => do
    let text ← scene.renderNodes children
    scene.showFiltered (.str text) filters
  | .unknown typeName => throw (.fault (.unknownNode typeName))

/-- The texts of nodes, one after the other. -/
def renderNodes (scene : Scene σ) : List Node → Eval σ String
  | [] => pure ""
  | node :: nodes => do
    let first ← (scene.renderNode node).mapFailure Failure.outside
    let rest ← scene.renderNodes nodes
    pure (first ++ rest)

end

end Scene

end Stencil
