import Stencil.CommandLine

/-!
# The command

Reads the arguments, checks the two directories, renders the batch and reports: a table with a row
for each template, or a line if there is none or the batch could not go on. The exit code is one if
anything failed.
-/

namespace Stencil.Command

def programName : String := "subst"

/-- The text that the command answers a question for its version with. -/
def versionText : String := programName ++ " 0.1.0\n"

/-- What the command shows on the console, before any markup is carried out. -/
inductive Shown where
  | line (text : String)
  | table (title : String) (columns : List String) (rows : List (List String))
  deriving DecidableEq, Repr

/-- An error that ends the command. -/
inductive CommandError where
  | batch (error : BatchError)
  /-- An operand has no value. -/
  | noPath

def CommandError.message (note : FieldCause → String) : CommandError → String
  | batch e => e.message note
  | noPath => "expected str, bytes or os.PathLike object, not list"

/-- What a run of the command leaves behind. -/
structure Ending where
  exit : Nat := 0
  stdout : String := ""
  stderr : String := ""
  console : List Shown := []
  log : List LogRecord := []
  disk : Disk
  /-- An error that the command does not report but passes on. -/
  escaped : Option CommandError := none

/-- Tells whether a fault is one of a value or of the system. -/
def isValueFault : Fault → Bool
  | .raised c _ => c.isValue
  | .integerTooLongToWrite => true
  | .integerTooLongToRead _ => true
  | _ => false

/-- Tells whether the command reports an error itself: those of files and of values. -/
def isReported : BatchError → Bool
  | .config (.invalid _) => true
  | .config (.wrongLength _ _) => true
  | .config _ => false
  | .pattern .missing => true
  | .pattern .empty => true
  | .pattern .doubleStar => true
  | .pattern _ => false
  | .render (.evaluation (.fault fault)) => isValueFault fault
  | .render _ => false
  | _ => true

def row (input template : Path) (outcome : Outcome) : List String :=
  let shown := match template.relativeTo input with
    | .ok below => below.text
    | .error _ => template.text
  [shown, if outcome.success then "[green]ok[/green]" else "[red]failed[/red]",
    outcome.error.getD ""]

def summary (input : Path) (results : List (Path × Outcome)) : Shown :=
  .table programName ["Template", "Status", "Error"]
    (results.map fun (template, outcome) => row input template outcome)

def renderAndReport (note : FieldCause → String) (flags : Flags) (options : BatchOptions)
    (input output : Path) (d : Disk) : Ending :=
  let (result, s) := renderTemplates flags options input output d
  let ending : Ending := { log := s.log, disk := s.disk }
  match result with
  | .error e =>
    if isReported e then
      { ending with
        exit := 1
        log := s.log ++ flags.debug ("Rendering aborted: " ++ e.message note)
        console := [.line ("[bold red]Error:[/bold red] " ++ e.message note)] }
    else { ending with escaped := some (.batch e) }
  | .ok () =>
    if s.results.isEmpty then
      { ending with
        console := [.line
          ("[bold yellow]No templates matching " ++ options.pattern.getD "" ++
            "[/bold yellow]")] }
    else
      { ending with
        exit := if s.results.all (·.2.success) then 0 else 1
        console := [summary input s.results] }

/-- What the command leaves behind if its arguments ask for no run. -/
def haltEnding (d : Disk) : CommandLine.Halt → Ending
  | .usage error => { exit := 2, stderr := programName ++ ": error: " ++ error.message ++ "\n", disk := d }
  | .help => { disk := d }
  | .version => { stdout := versionText, disk := d }

def operandOf (p : CommandLine.Parsed) (o : CommandLine.Operand) : Except CommandError Path :=
  match Entries.get? (p.operands.map fun (operand, value) => (operand.name, value)) o.name with
  | some (some text) => .ok (Path.ofText text)
  | _ => .error .noPath

/-- Makes the output directory if it is missing. The result tells whether there is a directory. -/
def prepareOutput (output : Path) (d : Disk) : Except CommandError Bool × Disk :=
  match d.find? output with
  | .error e => (.error (.batch (.file e)), d)
  | .ok (some t) => (.ok t.isDirectory, d)
  | .ok none =>
    let (result, d) := d.ensureDirectories output false output.parts.length
    ((result.map fun _ => true).mapError fun e => .batch (.file e), d)

/-- The ending of a run that is refused because of a path that is no directory. -/
def refusal (path : Path) (d : Disk) : Ending :=
  { exit := 1, stderr := "Not a directory: " ++ path.text ++ "\n", disk := d }

/-- Checks the output directory, then the input directory, and renders. -/
def runIn (note : FieldCause → String) (flags : Flags) (options : BatchOptions)
    (input output : Path) (d : Disk) : Ending :=
  match prepareOutput output d with
  | (.error e, d) => { disk := d, escaped := some e }
  | (.ok false, d) => refusal output d
  | (.ok true, d) =>
    match d.isDirectory input with
    | .error e => { disk := d, escaped := some (.batch (.file e)) }
    | .ok false => refusal input d
    | .ok true => renderAndReport note flags options input output d

/-- Runs the command. The output directory is made if it is missing. -/
def run (note : FieldCause → String) (settings : Settings) (arguments : List String) (d : Disk) :
    Ending :=
  match CommandLine.parse (CommandLine.defaultsOf settings) arguments with
  | .error halt => haltEnding d halt
  | .ok p =>
    match operandOf p .outputDirectory, operandOf p .inputDirectory with
    | .ok output, .ok input =>
      runIn note ⟨settings.beQuiet, settings.noComplain⟩ p.options input output d
    | .error e, _ => { disk := d, escaped := some e }
    | _, .error e => { disk := d, escaped := some e }

end Stencil.Command
