import Stencil.Command

/-!
# The program

Reads the environment and the files that the arguments name, runs the command on them, and writes
what it leaves behind: files, the two output streams, and the console.
-/

namespace Stencil.Program

/-- The variables of the environment, from a text in which each one ends with a null. -/
def variablesOf (text : String) : List (String × String) :=
  (text.splitOn "\x00").filterMap fun entry =>
    match CommandLine.splitEquals entry.toList with
    | (name, some value) => some (String.ofList name, String.ofList value)
    | _ => none

def environment : IO (List (String × String)) := do
  try
    return variablesOf (← IO.FS.readFile "/proc/self/environ")
  catch _ => return []

/-- The file or the directory at a path, with all that is in it. -/
partial def load (path : String) : IO Tree := do
  let place := (← IO.currentDir) / path
  if ← place.isDir then
    let entries ← (← place.readDir).toList.mapM fun entry => do
      return (entry.fileName, ← load entry.path.toString)
    return .directory entries
  else
    return .file (← IO.FS.readBinFile place).toList

/-- Adds the directory at a path, as yet without its entries, unless it is there. -/
def addDirectory (d : Disk) (path : Path) : IO Disk := do
  let place := (← IO.currentDir) / path.text
  if (d.locate path).isOk then return d
  else if ← place.isDir then
    let real := Path.ofText (← IO.FS.realPath place).toString
    return { d with tree := d.tree.put (.directory []) real.parts }
  else return d

/-- Adds what is at a path, if there is anything, and the directories that lead to it. -/
def add (d : Disk) (path : Path) : IO Disk := do
  let place := (← IO.currentDir) / path.text
  let above := (List.range path.parts.length).map fun n => { path with parts := path.parts.take n }
  let d ← above.foldlM addDirectory d
  if ← place.pathExists then
    let real := Path.ofText (← IO.FS.realPath place).toString
    return { d with tree := d.tree.put (← load real.text) real.parts }
  else return d

/-- The files that arguments name: the two directories and the context. -/
def filesOf (p : CommandLine.Parsed) : List Path :=
  match Command.operandOf p .inputDirectory, Command.operandOf p .outputDirectory with
  | .ok input, .ok output =>
    [input, output] ++ (p.options.context.toList.map fun name => input.join (Path.ofText name))
  | _, _ => []

/-- Writes what is in one tree and not, or not so, in the other. -/
def store (old new : Tree) : IO Unit := do
  for (names, t) in new.walk do
    let path := "/" ++ "/".intercalate names
    match t, old.locate names with
    | .directory _, .ok _ => pure ()
    | .directory _, .error _ => IO.FS.createDirAll path
    | .file bytes, .ok ⟨.file known, _⟩ =>
      if bytes ≠ known then IO.FS.writeBinFile path ⟨bytes.toArray⟩
    | .file bytes, _ => IO.FS.writeBinFile path ⟨bytes.toArray⟩

/-- The lines of something shown on the console; the cells of a row are set apart by tabs. -/
def linesOf : Command.Shown → List String
  | .line text => [text]
  | .table title columns rows =>
    title :: (columns :: rows).map fun cells => "\t".intercalate cells

/-- No note is added to an error about a field. -/
def note (_ : FieldCause) : String := ""

/-- Writes the streams and the console, and gives the exit code. -/
def report (ending : Command.Ending) : IO UInt32 := do
  for record in ending.log do
    IO.eprintln (record.level.name ++ " " ++ record.message)
  IO.print ending.stdout
  for shown in ending.console do
    for line in linesOf shown do
      IO.println line
  IO.eprint ending.stderr
  match ending.escaped with
  | some error =>
    IO.eprintln (error.message note)
    return 1
  | none => return ending.exit.toUInt32

/-- Runs the command on the files that its arguments name. -/
def run (settings : Settings) (arguments : List String) : IO UInt32 := do
  let here := Path.ofText (← IO.currentDir).toString
  let empty : Disk := { tree := (Tree.directory []).put (.directory []) here.parts, current := here.parts }
  let files := match CommandLine.parse (CommandLine.defaultsOf settings) arguments with
    | .ok p => filesOf p
    | .error _ => []
  let disk ← files.foldlM add empty
  let ending := Command.run note settings arguments disk
  store disk.tree ending.disk.tree
  report ending

end Stencil.Program

/-- The command: arguments as in the shell, settings from the environment. -/
def main (arguments : List String) : IO UInt32 := do
  match Stencil.Settings.ofEnvironment .lax (← Stencil.Program.environment) with
  | .ok settings => Stencil.Program.run settings arguments
  | .error errors =>
    IO.eprintln (Stencil.FieldError.report Stencil.Program.note "App" errors)
    return 1
