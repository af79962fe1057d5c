import Stencil.Value

/-!
# Nodes

A parsed template is a list of nodes: literal text, variables, and groups of nodes. Variables and
groups carry calls of filters, each with at most one parameter.
-/

namespace Stencil

/-- The parameter of a filter call. -/
inductive Param where
  /-- A fixed value. -/
  | literal (value : Value)
  /-- A key of the context, and the text to use if the context has no such key. -/
  | reference (key : String)
  /-- Something of the given type that is no parameter. -/
  | unknown (typeName : String)

instance : Inhabited Param := ⟨.reference ""⟩

/-- A filter by name, with its parameter. -/
structure Call where
  name : String
  param : Option Param := none
  deriving Inhabited

/-- A piece of a parsed template. -/
inductive Node where
  /-- Text that is shown as it is. -/
  | literal (text : String)
  /-- A path into the context; `source` is shown if nothing is found there. -/
  | variable (path : List String) (filters : List Call) (source : String)
  /-- Nodes that are rendered to one text, which is then filtered. -/
  | group (children : List Node) (filters : List Call)
  /-- Something of the given type that is no node. -/
  | unknown (typeName : String)

instance : Inhabited Node := ⟨.literal ""⟩

end Stencil
