import Stencil.Node
import Stencil.Text.Blank
import Stencil.Text.Case

/-!
# Filters

A filter turns a value into another, with at most one parameter. It may keep state, which is a value
of a type of its own. The built-in filters work on the text that a template shows for a value and
take no parameter.
-/

namespace Stencil

open Text

/-- A filter: from a value, a parameter and a state to a value or a fault, and the next state. -/
abbrev Filter (σ : Type) := Value → Option Value → σ → Except Fault Value × σ

/-- What may be handed in under the name of a filter. -/
inductive Candidate (σ : Type) where
  | function (filter : Filter σ)
  /-- A value that is no function. -/
  | value (value : Value)

/-- Filters by name. -/
abbrev Registry (σ : Type) := Entries (Candidate σ)

/-- The built-in filters. -/
inductive Builtin where
  | trim
  | upper
  | lower
  | capitalize
  | title
  deriving DecidableEq, Repr, Inhabited

namespace Builtin

/-- The built-in filters in the order of their registry. -/
def all : List Builtin :=
  [trim, upper, lower, capitalize, title]

def name : Builtin → String
  | trim => "trim"
  | upper => "upper"
  | lower => "lower"
  | capitalize => "capitalize"
  | title => "title"

def ofName? (name : String) : Option Builtin :=
  all.find? (·.name = name)

def onText : Builtin → List Char → List Char
  | trim => Text.strip
  | upper => Text.upper
  | lower => Text.lower
  | capitalize => Text.capitalize
  | title => Text.title

def apply (b : Builtin) (value : Value) : Except Fault String :=
  value.shown.map fun text => String.ofList (b.onText text.toList)

/-- A built-in filter as a filter, whatever the type of state. -/
def toFilter (b : Builtin) {σ : Type} : Filter σ := fun value param state =>
  match param with
  | none => ((b.apply value).map .str, state)
  | some _ => (.error (.unexpectedParameter b.name), state)

end Builtin

namespace Registry

variable {σ : Type}

def builtins : Registry σ :=
  Builtin.all.map fun b => (b.name, .function b.toFilter)

/-- The caller's filters, over the built-in ones if these are wanted. -/
def merge (caller : Registry σ) (withBuiltins : Bool) : Registry σ :=
  if withBuiltins then Entries.putAll builtins caller else caller

end Registry

end Stencil
