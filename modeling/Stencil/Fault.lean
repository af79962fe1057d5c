import Stencil.Numeral.Integer

/-!
# Faults

Why a computation on values fails. Filters, attribute readers and values come from the caller and
raise what they like, in classes of their own; every other cause is listed.
-/

namespace Stencil

/-- A class of what a caller raises: its name, and the classes that it belongs to of those that are
handled apart. -/
structure FaultClass where
  name : String
  /-- An error of the template, as the parser and the evaluation raise them. -/
  isTemplate : Bool := false
  /-- There is no such attribute. -/
  isAttribute : Bool := false
  /-- There is nothing left to iterate over. -/
  isExhausted : Bool := false
  /-- A value that does not fit, or a failure of the system. -/
  isValue : Bool := false
  deriving DecidableEq, Repr

/-- A failure outside the template language. -/
inductive Fault where
  /-- Raised by a caller's filter, attribute or value: its class, and its text. -/
  | raised (faultClass : FaultClass) (message : String)
  /-- Nothing was left to iterate over, as it is seen from outside the iteration over the nodes in
  which that was raised. -/
  | exhaustedInside
  /-- An integer is too long to be written. -/
  | integerTooLongToWrite
  /-- An integer numeral of the given length is too long to be read. -/
  | integerTooLongToRead (digits : Nat)
  /-- A built-in filter takes no parameter. -/
  | unexpectedParameter (filter : String)
  /-- A value of the given type stands where a filter is needed. -/
  | notCallable (typeName : String)
  /-- Something of the given type stands where a parameter is needed. -/
  | unknownParameter (typeName : String)
  /-- Something of the given type stands where a node is needed. -/
  | unknownNode (typeName : String)
  deriving DecidableEq, Repr

namespace Fault

def message : Fault → String
  | raised _ message => message
  | exhaustedInside => "generator raised StopIteration"
  | integerTooLongToWrite => Numeral.tooLongMessage none
  | integerTooLongToRead digits => Numeral.tooLongMessage (some digits)
  | unexpectedParameter filter =>
    filter ++ "() takes 1 positional argument but 2 were given"
  | notCallable typeName => s!"'{typeName}' object is not callable"
  | unknownParameter typeName => s!"Unknown parameter type: {typeName}"
  | unknownNode typeName => s!"Unknown node type: {typeName}"

/-- The name of its class, if a fault belongs to the errors of the template. -/
def templateClass? : Fault → Option String
  | raised c _ => if c.isTemplate then some c.name else none
  | _ => none

/-- Tells whether a fault says that there is no such attribute. -/
def isMissing : Fault → Bool
  | raised c _ => c.isAttribute
  | _ => false

/-- A fault as it leaves the iteration over the nodes. -/
def outside : Fault → Fault
  | raised c message => if c.isExhausted then exhaustedInside else raised c message
  | fault => fault

end Fault

/-- Why an evaluation fails. -/
inductive Failure where
  /-- A fault that no part of the evaluation accounts for. -/
  | fault (cause : Fault)
  /-- No filter has the name. -/
  | unknownFilter (name : String)
  /-- A filter failed, or its parameter could not be read. -/
  | filterFailed (name : String) (cause : Failure)
  /-- Reading an attribute failed. -/
  | readFailed (key : String) (cause : Fault)
  deriving DecidableEq, Repr

namespace Failure

def message : Failure → String
  | fault cause => cause.message
  | unknownFilter name => s!"Unknown filter: {name}"
  | filterFailed name cause => s!"Filter '{name}' failed: {message cause}"
  | readFailed key cause => s!"Reading '{key}' failed: {cause.message}"

/-- A failure of one node, as it leaves the iteration over the nodes. -/
def outside : Failure → Failure
  | fault cause => fault cause.outside
  | failure => failure

def filterName? : Failure → Option String
  | unknownFilter name => some name
  | filterFailed name _ => some name
  | _ => none

end Failure

end Stencil
