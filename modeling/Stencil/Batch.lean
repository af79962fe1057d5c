import Stencil.Engine
import Stencil.Glob
import Stencil.Json

/-!
# Batches of templates

Renders every template file that a pattern selects below a directory, with one context, and writes
each text to the same place below another directory. A template that fails is reported, and with the
option to raise errors it is the last one.
-/

namespace Stencil

open Text

/-- What a batch is asked for. An option may be named and yet have no value. -/
structure BatchOptions where
  context : Option String := some ""
  pattern : Option String := some "**/*.tmpl"
  tokens : Option String := some defaultTokens
  throws : Bool := false
  deriving DecidableEq, Repr, Inhabited

/-- Why a batch stops. -/
inductive BatchError where
  | config (error : ConfigError)
  | read (error : ReadError)
  /-- The context file is no JSON. -/
  | context (path : Path) (text : String) (reason : Json.Reason) (position : Nat)
  | integerTooLong (digits : Nat)
  /-- The context file holds a string that is no string of characters; such contexts are left out
  here. -/
  | unpaired (text : String) (position : Nat)
  | pattern (why : Glob.Invalid)
  | render (error : RenderError)
  | file (error : FileError)
  | outside (error : Path.NotBelow)

/-- The wording of an error, with a note on each option that is not valid. -/
def BatchError.message (note : FieldCause → String) : BatchError → String
  | config e => e.message note
  | read e => e.message
  | context path text reason position =>
    "Context file " ++ path.text ++ " is not valid JSON: " ++
      (Json.Error.malformed reason position).message text
  | integerTooLong digits => Numeral.tooLongMessage (some digits)
  | unpaired text position => (Json.Error.unpaired position).message text
  | pattern why => why.message
  | render e => e.message
  | file e => e.message
  | outside e => e.message

/-- The suffix that templates have and their output has not. -/
def templateSuffix : String := ".tmpl"

/-- Where the output of a template goes. -/
def outputPath (template input output : Path) : Except Path.NotBelow Path := do
  let below ← template.relativeTo input
  return output.join (if below.suffix = templateSuffix then below.dropSuffix else below)

def readContext (d : Disk) (path : Path) : Except BatchError Value :=
  match d.readText path with
  | .error e => .error (.read e)
  | .ok text =>
    match Json.read text with
    | .ok v => .ok v
    | .error (.malformed reason position) => .error (.context path text reason position)
    | .error (.integerTooLong digits) => .error (.integerTooLong digits)
    | .error (.unpaired position) => .error (.unpaired text position)

/-- The context in a file with a given name; no name gives an empty one. -/
def loadContext (d : Disk) (name : Option String) (input : Path) : Except BatchError Value :=
  match name with
  | none => .ok (.dict [])
  | some "" => .ok (.dict [])
  | some name => readContext d (input.join (Path.ofText name))

/-- How far a batch has come. -/
structure BatchState where
  disk : Disk
  /-- The outcome for each template so far, in order. -/
  results : List (Path × Outcome) := []
  log : List LogRecord := []

/-- A batch with all that it needs besides the files. -/
structure Batch where
  engine : Engine
  context : Value
  flags : Flags
  input : Path
  output : Path

namespace Batch

/-- The outcome for the text of a template, or for a file without one, and the log. -/
def outcome (b : Batch) (d : Disk) (template : Path) :
    Except RenderError Outcome × List LogRecord :=
  match d.readText template with
  | .error e =>
    (.ok (.ofError ("Cannot read template: " ++ e.message)),
      b.flags.debug ("Reading " ++ template.text ++ " failed: " ++ e.message))
  | .ok text =>
    let report := b.engine.renderOutcome b.flags (.str text)
      { context := b.context, filters := .absent : Arguments Unit } ⟨(), []⟩
    (report.result, report.log)

/--
Writes the text of a template to its place. The directory is made if it is missing, and stays if the
file cannot be written.
-/
def store (b : Batch) (d : Disk) (template : Path) (text : String) :
    Except BatchError Unit × Disk :=
  match outputPath template b.input b.output with
  | .error e => (.error (.outside e), d)
  | .ok target =>
    let parent := target.parent
    let (result, d) := match d.ensureDirectories parent true parent.parts.length with
      | (.ok (), d) => d.after (d.write target (encodeUtf8 text))
      | failed => failed
    (result.mapError .file, d)

def step (b : Batch) (template : Path) (s : BatchState) :
    Except BatchError Outcome × BatchState :=
  let s := { s with log := s.log ++ b.flags.debug ("Rendering " ++ template.text) }
  let (result, log) := b.outcome s.disk template
  let s := { s with log := s.log ++ log }
  match result with
  | .error e => (.error (.render e), s)
  | .ok outcome =>
    let s := { s with results := s.results ++ [(template, outcome)] }
    if outcome.success then
      let (result, disk) := b.store s.disk template outcome.text
      (result.map fun _ => outcome, { s with disk })
    else (.ok outcome, s)

/--
Renders templates one after the other, passing over what is no file; with `throws` a failed one is
the last.
-/
def run (b : Batch) (throws : Bool) : List Path → BatchState → Except BatchError Unit × BatchState
  | [], s => (.ok (), s)
  | template :: rest, s =>
    match s.disk.isFile template with
    | .error e => (.error (.file e), s)
    | .ok false => b.run throws rest s
    | .ok true =>
      match b.step template s with
      | (.error e, s) => (.error e, s)
      | (.ok outcome, s) =>
        if throws && !outcome.success then (.ok (), s) else b.run throws rest s

end Batch

/-- A batch with the templates that its pattern selects. The option to raise errors has no part in
it. -/
def prepare (flags : Flags) (options : BatchOptions) (input output : Path) (d : Disk) :
    Except BatchError (Batch × List Path) := do
  let tokens : Value := options.tokens.elim (.list []) .str
  let o ← (configure (.value .none) [("tokens", tokens)]).mapError .config
  let context ← loadContext d options.context input
  let pattern ← (Glob.Pattern.ofText? options.pattern).mapError .pattern
  let templates ← (pattern.paths d input).mapError .file
  return (⟨⟨o⟩, context, flags, input, output⟩, templates)

/-- Renders the templates below `input` to files below `output`. -/
def renderTemplates (flags : Flags) (options : BatchOptions) (input output : Path) (d : Disk) :
    Except BatchError Unit × BatchState :=
  let s : BatchState := { disk := d }
  match prepare flags options input output d with
  | .error e => (.error e, s)
  | .ok (b, templates) => b.run options.throws templates s

end Stencil
