import Stencil.Entries
import Stencil.Path
import Stencil.Text.Utf8

/-!
# Files

A tree of directories and files, with the operations that a program does on it. A step upwards goes
to the directory that was passed on the way down, so a path through something that is missing, or is
no directory, fails even if later steps leave it.
-/

namespace Stencil

open Text

/-- A file with its bytes, or a directory with what is in it. -/
inductive Tree where
  | file (bytes : List UInt8)
  | directory (entries : List (String × Tree))

instance : Inhabited Tree := ⟨.directory []⟩

/-- Why an operation on files fails. -/
inductive FileCause where
  | notFound
  | alreadyThere
  | notDirectory
  | isDirectory
  | nameTooLong
  /-- The path holds a character that no path can hold. -/
  | nullInPath
  deriving DecidableEq, Repr

/-- The number of a cause, if the system has one for it, and its wording. -/
def FileCause.description : FileCause → Option Nat × String
  | notFound => (some 2, "No such file or directory")
  | alreadyThere => (some 17, "File exists")
  | notDirectory => (some 20, "Not a directory")
  | isDirectory => (some 21, "Is a directory")
  | nameTooLong => (some 36, "File name too long")
  | nullInPath => (none, "embedded null byte")

/-- A failed operation with the path that it was done on. -/
structure FileError where
  cause : FileCause
  path : Path
  deriving DecidableEq, Repr

def FileError.message (e : FileError) : String :=
  match e.cause.description with
  | (some number, wording) => s!"[Errno {number}] {wording}: " ++ quoted e.path.text
  | (none, wording) => wording

namespace Tree

def isDirectory : Tree → Bool
  | directory _ => true
  | file _ => false

def entries : Tree → List (String × Tree)
  | directory es => es
  | file _ => []

/-- The tree with `new` at the place that the names lead to; all but the last have to be there. -/
def put (t : Tree) (new : Tree) : List String → Tree
  | [] => new
  | name :: names =>
    let old := (Entries.get? t.entries name).getD (directory [])
    directory (Entries.put t.entries name (old.put new names))

mutual

/-- The names that lead to each directory of a tree, the tree itself first. -/
def directories : Tree → List (List String)
  | file _ => []
  | directory es => [] :: directoriesIn es

/-- The names that lead to each directory among some entries. -/
def directoriesIn : List (String × Tree) → List (List String)
  | [] => []
  | (name, t) :: es => t.directories.map (name :: ·) ++ directoriesIn es

end

mutual

/-- Everything in a directory, with the names that lead there. -/
def walk : Tree → List (List String × Tree)
  | file _ => []
  | directory es => walkIn es

def walkIn : List (String × Tree) → List (List String × Tree)
  | [] => []
  | (name, t) :: es =>
    ([name], t) :: t.walk.map (fun (names, t) => (name :: names, t)) ++ walkIn es

end

/-- A place in a tree: what is there, and the directories above it with the names that led down. -/
structure Place where
  here : Tree
  above : List (String × Tree) := []

/-- The longest name of a file, in bytes. -/
def maxName : Nat := 255

def Place.step (p : Place) (name : String) : Except FileCause Place :=
  match p.here with
  | file _ => .error .notDirectory
  | directory es =>
    if name = ".." then
      match p.above with
      | [] => .ok p
      | (_, t) :: above => .ok ⟨t, above⟩
    else if name.utf8ByteSize > maxName then .error .nameTooLong
    else
      match Entries.get? es name with
      | none => .error .notFound
      | some t => .ok ⟨t, (name, p.here) :: p.above⟩

/-- The names that lead to a place without steps upwards. -/
def Place.names (p : Place) : List String :=
  p.above.reverse.map (·.1)

def locate (t : Tree) (names : List String) : Except FileCause Place :=
  names.foldlM Place.step ⟨t, []⟩

end Tree

/-- All files, with the directory that relative paths start at. -/
structure Disk where
  tree : Tree
  current : List String := []
  deriving Inhabited

namespace Disk

/-- The names that a path leads along, from the root of the tree on. -/
def names (d : Disk) (p : Path) : List String :=
  if p.isAbsolute then p.parts else d.current ++ p.parts

/-- The longest path, in bytes. -/
def maxPath : Nat := 4095

def locate (d : Disk) (p : Path) : Except FileCause Tree.Place :=
  if p.text.toList.contains '\x00' then .error .nullInPath
  else if p.text.utf8ByteSize > maxPath then .error .nameTooLong
  else d.tree.locate (d.names p)

/-- What is at a path, if there is anything; only names that are too long are an error. -/
def find? (d : Disk) (p : Path) : Except FileError (Option Tree) :=
  match d.locate p with
  | .ok place => .ok (some place.here)
  | .error .nameTooLong => .error ⟨.nameTooLong, p⟩
  | .error _ => .ok none

def has (d : Disk) (p : Path) : Except FileError Bool :=
  (d.find? p).map (·.isSome)

def isDirectory (d : Disk) (p : Path) : Except FileError Bool :=
  (d.find? p).map (·.any Tree.isDirectory)

def isFile (d : Disk) (p : Path) : Except FileError Bool :=
  (d.find? p).map (·.any fun t => !t.isDirectory)

def entries (d : Disk) (p : Path) : List (String × Tree) :=
  match d.locate p with
  | .ok place => place.here.entries
  | .error _ => []

def read (d : Disk) (p : Path) : Except FileError (List UInt8) :=
  match d.locate p with
  | .ok ⟨.file bytes, _⟩ => .ok bytes
  | .ok ⟨.directory _, _⟩ => .error ⟨.isDirectory, p⟩
  | .error cause => .error ⟨cause, p⟩

/-- Puts something new at a path where nothing is, in a directory that is there. -/
def create (d : Disk) (p : Path) (new : Tree) : Except FileError Disk :=
  match d.locate p.parent with
  | .ok place =>
    if place.here.isDirectory then
      .ok { d with tree := d.tree.put new (place.names ++ [p.name]) }
    else .error ⟨.notDirectory, p⟩
  | .error cause => .error ⟨cause, p⟩

/-- Writes a file, in place of the one that may be there. -/
def write (d : Disk) (p : Path) (bytes : List UInt8) : Except FileError Disk :=
  match d.locate p with
  | .ok place =>
    if place.here.isDirectory then .error ⟨.isDirectory, p⟩
    else .ok { d with tree := d.tree.put (.file bytes) place.names }
  | .error .notFound => d.create p (.file bytes)
  | .error cause => .error ⟨cause, p⟩

def makeDirectory (d : Disk) (p : Path) : Except FileError Disk :=
  match d.locate p with
  | .ok _ => .error ⟨.alreadyThere, p⟩
  | .error .notFound => d.create p (.directory [])
  | .error cause => .error ⟨cause, p⟩

/-- Makes a directory; with `mayBeThere` it is no error if it is there. -/
def ensureDirectory (d : Disk) (p : Path) (mayBeThere : Bool) : Except FileError Disk :=
  match d.makeDirectory p with
  | .ok d => .ok d
  | .error e => do
    if e.cause = .notFound || e.cause = .nullInPath || !mayBeThere then throw e
    else if ← d.isDirectory p then return d
    else throw e

/-- The files after an operation that fails without a trace. -/
def after (d : Disk) : Except FileError Disk → Except FileError Unit × Disk
  | .ok d => (.ok (), d)
  | .error e => (.error e, d)

/--
Makes a directory with those above it; `depth` is the number of its components. Those above may be
there, the directory itself only with `mayBeThere`. Those that are made stay if a later one fails.
-/
def ensureDirectories (d : Disk) (p : Path) (mayBeThere : Bool) :
    Nat → Except FileError Unit × Disk
  | 0 => d.after (d.ensureDirectory p mayBeThere)
  | depth + 1 =>
    match d.makeDirectory p with
    | .error ⟨.notFound, _⟩ =>
      match d.ensureDirectories p.parent true depth with
      | (.ok (), d) => d.after (d.ensureDirectory p mayBeThere)
      | failed => failed
    | _ => d.after (d.ensureDirectory p mayBeThere)

end Disk

def unifyLineEnds : List Char → List Char
  | [] => []
  | '\r' :: '\n' :: cs => '\n' :: unifyLineEnds cs
  | '\r' :: cs => '\n' :: unifyLineEnds cs
  | c :: cs => c :: unifyLineEnds cs

/-- Why a file has no text. -/
inductive ReadError where
  | file (error : FileError)
  | encoding (error : Utf8Error)
  deriving DecidableEq, Repr

def ReadError.message : ReadError → String
  | file e => e.message
  | encoding e => e.message

/-- The text of a file, with its line ends as line feeds. -/
def Disk.readText (d : Disk) (p : Path) : Except ReadError String :=
  match d.read p with
  | .error e => .error (.file e)
  | .ok bytes =>
    match decodeUtf8 bytes with
    | .error e => .error (.encoding e)
    | .ok text => .ok (String.ofList (unifyLineEnds text.toList))

end Stencil
