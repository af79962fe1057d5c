import Stencil.Parse.Fault
import Stencil.Value

/-!
# Template errors as values

The classes of errors that a caller can build and raise: the common one, parse errors with a piece
of the template, and evaluation errors with the name of a filter.
-/

namespace Stencil

/-- The classes of template errors. -/
inductive ErrorClass where
  | base
  | parse
  | evaluation
  deriving DecidableEq, Repr

namespace ErrorClass

def name : ErrorClass → String
  | base => "SubstError"
  | parse => "ParseError"
  | evaluation => "EvaluationError"

/-- All classes, the common one first. -/
def all : List ErrorClass := [base, parse, evaluation]

def ofName? (name : String) : Option ErrorClass :=
  all.find? (·.name = name)

end ErrorClass

/-- An error that was built from arguments: its text, and its piece or filter name if it has one. -/
structure TemplateError where
  errorClass : ErrorClass
  message : Except Fault String
  detail : Value := .none

/-- An error class was given too few or too many arguments. -/
inductive ArityError where
  | missingMessage (errorClass : ErrorClass)
  | tooMany (errorClass : ErrorClass) (given : Nat)
  deriving DecidableEq, Repr

/-- The wording of an arity error. The error itself counts as an argument. -/
def ArityError.message : ArityError → String
  | missingMessage c =>
    s!"{c.name}.__init__() missing 1 required positional argument: 'message'"
  | tooMany c given =>
    let count := given + 1
    s!"{c.name}.__init__() takes from 2 to 3 positional arguments but {count} were given"

namespace TemplateError

/-- The text of a parse error: the message, then the piece if there is one. -/
def parseMessage (message fragment : Value) : Except Fault String := do
  let text ← message.text
  if fragment.truthy then
    let shown ← fragment.inner
    return text ++ ": " ++ shown
  else return text

def ofArguments (c : ErrorClass) (arguments : List Value) : Except ArityError TemplateError :=
  match c, arguments with
  | .base, [] => .ok { errorClass := c, message := .ok "" }
  | .base, [v] => .ok { errorClass := c, message := v.text }
  | .base, vs => .ok { errorClass := c, message := (Value.tuple vs).text }
  | c, [] => .error (.missingMessage c)
  | .parse, [v] => .ok { errorClass := .parse, message := v.text, detail := .str "" }
  | .parse, [v, fragment] =>
    .ok { errorClass := .parse, message := parseMessage v fragment, detail := fragment }
  | .evaluation, [v] => .ok { errorClass := .evaluation, message := v.text }
  | .evaluation, [v, name] => .ok { errorClass := .evaluation, message := v.text, detail := name }
  | c, vs => .error (.tooMany c vs.length)

end TemplateError

end Stencil
