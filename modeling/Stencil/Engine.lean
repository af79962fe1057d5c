import Stencil.Evaluate
import Stencil.Log
import Stencil.Options
import Stencil.Parse

/-!
# The engine

An engine renders templates under fixed options. Arguments are checked first, then the template is
parsed, then evaluated. Rendering strictly gives the text or the error; rendering to a result turns
template errors into a failed result and logs them; plain rendering does one or the other, as the
options say.
-/

namespace Stencil

/-- What may be handed in as the filters of a render. -/
inductive Filters (σ : Type) where
  | registry (entries : Registry σ)
  /-- No filters are handed in. -/
  | absent
  /-- Something of the given type that is no mapping. -/
  | noMapping (typeName : String)

/-- What is wrong with the arguments of a render. -/
inductive ArgumentError where
  | templateNotText (typeName : String)
  | filtersNotMapping (typeName : String)
  | filterNotCallable (name : String)
  /-- Something without characters is to be cut into tokens. -/
  | notSearchable
  /-- Bytes are to be cut into tokens. -/
  | searchedBytes
  deriving DecidableEq, Repr

def ArgumentError.message : ArgumentError → String
  | templateNotText typeName => s!"Template must be a string, not {typeName}"
  | filtersNotMapping typeName => s!"Filters must be a mapping, not {typeName}"
  | filterNotCallable name => s!"Filter '{name}' is not callable"
  | notSearchable => "expected string or buffer"
  | searchedBytes => "cannot use a string pattern on a bytes-like object"

/-- Why a render fails. -/
inductive RenderError where
  | arguments (error : ArgumentError)
  | parse (failure : ParseFailure)
  | evaluation (failure : Failure)
  deriving DecidableEq, Repr

namespace RenderError

/-- The class of an error, if it is an error of the template. -/
def templateClass? : RenderError → Option String
  | arguments _ => none
  | parse (.malformed _) => some "ParseError"
  | parse .pastEnd => none
  | evaluation (.fault cause) => cause.templateClass?
  | evaluation _ => some "EvaluationError"

def message : RenderError → String
  | arguments error => error.message
  | parse (.malformed error) => error.message
  | parse .pastEnd => "list index out of range"
  | evaluation failure => failure.message

end RenderError

/-- The result of rendering without raising template errors. -/
structure Outcome where
  text : String
  error : Option String
  success : Bool
  deriving DecidableEq, Repr, Inhabited

namespace Outcome

def ofText (text : String) : Outcome := ⟨text, none, true⟩

/-- A failure, with its message and no text. -/
def ofError (message : String) : Outcome := ⟨"", some message, false⟩

/-- Reads a result from named values; names without a meaning are passed over. -/
def ofFields (r : FieldReaders) (fields : Entries Value) : Except (List FieldError) Outcome :=
  let text := readField fields "text" (.error .missing) r.text
  let error := readField fields "error" (.ok none) fun
    | .none => .ok none
    | v => (r.text v).map some
  let success := readField fields "success" (.ok true) r.flag
  match text, error, success with
  | .ok text, .ok error, .ok success => .ok { text, error, success }
  | text, error, success =>
    .error (r.arrange ((errorOf? text).toList ++ (errorOf? error).toList
      ++ (errorOf? success).toList))

end Outcome

/-- What a render gives: a result or an error, the run of the filters, and the log. -/
structure Report (σ α : Type) where
  result : Except RenderError α
  run : Run σ
  log : List LogRecord := []

/-- The first entry that is no function. -/
def Registry.firstNotCallable? {σ : Type} : Registry σ → Option String
  | [] => none
  | (_, .function _) :: rest => firstNotCallable? rest
  | (name, .value _) :: _ => some name

/-- Checks the arguments of a render: the template first, then the filters in order. -/
def checkArguments {σ : Type} (template : Value) (filters : Filters σ) :
    Except ArgumentError (String × Registry σ) :=
  match template, filters with
  | .str text, .registry entries =>
    match entries.firstNotCallable? with
    | none => .ok (text, entries)
    | some name => .error (.filterNotCallable name)
  | .str _, .absent => .error (.filtersNotMapping Value.none.typeName)
  | .str _, .noMapping typeName => .error (.filtersNotMapping typeName)
  | v, _ => .error (.templateNotText v.typeName)

/-- A render's arguments, apart from the template. -/
structure Arguments (σ : Type) where
  context : Value
  filters : Filters σ

namespace Arguments

variable {σ : Type}

/-- No context is an empty one. -/
def contextOrEmpty (a : Arguments σ) : Value :=
  match a.context with
  | .none => .dict []
  | v => v

/-- No filters are an empty registry. -/
def filtersOrEmpty (a : Arguments σ) : Filters σ :=
  match a.filters with
  | .absent => .registry []
  | filters => filters

end Arguments

/-- A render function bound to options. -/
structure Engine where
  options : Options

namespace Engine

variable {σ : Type}

def description (e : Engine) : String :=
  "Engine(tokens=" ++ Text.quoted e.options.tokens ++ ", throws=" ++
    Value.boolText e.options.throws ++ ", builtins=" ++ Value.boolText e.options.builtins ++ ")"

/-- The nodes of a template, which is not evaluated. -/
def compile (e : Engine) : Value → Except RenderError (List Node)
  | .str template => (Stencil.compile e.options.symbols template).mapError .parse
  | .bytes _ => .error (.arguments .searchedBytes)
  | _ => .error (.arguments .notSearchable)

/-- Evaluates nodes with the filters of the caller over the built-in ones. -/
def evaluate (e : Engine) (nodes : List Node) (context : Value) (filters : Registry σ)
    (run : Run σ) : Report σ String :=
  let scene : Scene σ := ⟨context, filters.merge e.options.builtins⟩
  let (result, run) := scene.renderNodes nodes run
  { result := result.mapError .evaluation, run }

/-- Renders a template and gives every error as it is. -/
def renderStrict (e : Engine) (template : Value) (a : Arguments σ) (run : Run σ) :
    Report σ String :=
  match checkArguments template a.filtersOrEmpty with
  | .error error => { result := .error (.arguments error), run }
  | .ok (text, filters) =>
    match e.compile (.str text) with
    | .error error => { result := .error error, run }
    | .ok nodes => e.evaluate nodes a.contextOrEmpty filters run

/-- Renders a template; an error of the template gives a failed result and is logged. -/
def renderOutcome (e : Engine) (flags : Flags) (template : Value) (a : Arguments σ)
    (run : Run σ) : Report σ Outcome :=
  let strict := e.renderStrict template a run
  match strict.result with
  | .ok text => { strict with result := .ok (.ofText text) }
  | .error error =>
    match error.templateClass? with
    | none => { strict with result := .error error }
    | some className =>
      { strict with
        result := .ok (.ofError error.message)
        log := strict.log ++ flags.debug s!"Render failed with {className}: {error.message}" }

/--
Renders a template as the options say: errors are given as they are, or an error of the template
is complained about and gives the empty text.
-/
def render (e : Engine) (flags : Flags) (template : Value) (a : Arguments σ) (run : Run σ) :
    Report σ String :=
  if e.options.throws then e.renderStrict template a run
  else
    let report := e.renderOutcome flags template a run
    match report.result with
    | .error error => { report with result := .error error }
    | .ok outcome =>
      { report with
        result := .ok outcome.text
        log := report.log ++
          match outcome.error with
          | some error => flags.complain s!"Template could not be rendered: {error}"
          | none => [] }

/-- An engine is used as a function: calling it renders. -/
def call (e : Engine) (flags : Flags) (template : Value) (a : Arguments σ) (run : Run σ) :
    Report σ String :=
  e.render flags template a run

end Engine

end Stencil
