import Stencil.Disk

/-!
# Patterns for files

A pattern has one part for each component of a path: a name, a name with wildcards, or a double star
for any number of directories. Within a name a star stands for any characters, a question mark for
one, and brackets for one character of a set.
-/

namespace Stencil.Glob

/-- A piece of a name with wildcards. -/
inductive Piece where
  | star
  | any
  | char (c : Char)
  /-- One of some characters or ranges of characters, or none of them. -/
  | set (negated : Bool) (chars : List Char) (ranges : List (Char × Char))
  deriving DecidableEq, Repr

namespace Piece

/-- Tells whether a piece stands for a character; a star is no single character. -/
def accepts (c : Char) : Piece → Bool
  | star => false
  | any => true
  | char d => c = d
  | set negated chars ranges =>
    negated != (chars.contains c || ranges.any fun r => r.1 ≤ c && c ≤ r.2)

end Piece

/-- A text and all that is left of it after taking characters off its start. -/
def suffixes : List Char → List (List Char)
  | [] => [[]]
  | c :: cs => (c :: cs) :: suffixes cs

/-- What is left of each text after a character that a piece stands for. -/
def Piece.step (p : Piece) (rests : List (List Char)) : List (List Char) :=
  rests.filterMap fun
    | c :: cs => if p.accepts c then some cs else none
    | [] => none

/--
What may be left after some pieces of a text of which `rests` may be left. The longest comes first,
and the others are suffixes of it, so after a star its suffixes are all that may be left.
-/
def remainders : List Piece → List (List Char) → List (List Char)
  | [], rests => rests
  | .star :: ps, rests => remainders ps (rests.head?.elim [] suffixes)
  | p :: ps, rests => remainders ps (p.step rests)

def matchesName (ps : List Piece) (cs : List Char) : Bool :=
  (remainders ps [cs]).any List.isEmpty

/-- Cuts the text of a set at hyphens that may stand for ranges, `skip` characters after a cut. -/
def chunksFrom (skip : Nat) (chunk : List Char) : List Char → List (List Char)
  | [] => [chunk.reverse]
  | c :: cs =>
    match skip with
    | 0 => if c = '-' then chunk.reverse :: chunksFrom 2 [] cs else chunksFrom 0 (c :: chunk) cs
    | skip + 1 => chunksFrom skip (c :: chunk) cs

/-- A hyphen at the end of a set stands for itself. -/
def closeChunks : List (List Char) → List (List Char)
  | [] => []
  | [c, []] => [c ++ ['-']]
  | c :: cs => c :: closeChunks cs

/-- Puts a chunk before others; a range that would be empty vanishes with its ends. -/
def joinChunk (c : List Char) : List (List Char) → List (List Char)
  | [] => [c]
  | d :: ds =>
    match c.getLast?, d.head? with
    | some a, some b => if b < a then (c.dropLast ++ d.tail) :: ds else c :: d :: ds
    | _, _ => c :: d :: ds

/-- The ranges between the end of each chunk and the start of the next. -/
def rangesOf : List (List Char) → List (Char × Char)
  | c :: d :: ds =>
    match c.getLast?, d.head? with
    | some a, some b => (a, b) :: rangesOf (d :: ds)
    | _, _ => rangesOf (d :: ds)
  | _ => []

/--
Reads the text between the brackets of a set. Empty ranges vanish first; what then starts with an
exclamation mark is negated, and nothing but that mark stands for any character.
-/
def setOf (content : List Char) : Piece :=
  let skip := if content.head? = some '!' then 2 else 1
  match (closeChunks (chunksFrom skip [] content)).foldr joinChunk [] with
  | [['!']] => .any
  | ('!' :: chunk) :: chunks =>
    if chunk.isEmpty then .set true ('-' :: chunks.flatten) (rangesOf chunks)
    else .set true (chunk ++ chunks.flatten) (rangesOf (chunk :: chunks))
  | chunks => .set false chunks.flatten (rangesOf chunks)

/-- The length of the content of a set, up to the closing bracket, if there is one. -/
def setLength? (cs : List Char) : Option Nat :=
  let skipped := match cs with
    | '!' :: ']' :: _ => 2
    | '!' :: _ => 1
    | ']' :: _ => 1
    | _ => 0
  let inside := (cs.drop skipped).takeWhile (· ≠ ']')
  if skipped + inside.length < cs.length then some (skipped + inside.length) else none

/-- Reads the pieces of a name; `skip` characters belong to a set that is already read. -/
def piecesFrom (skip : Nat) : List Char → List Piece
  | [] => []
  | c :: cs =>
    match skip with
    | skip + 1 => piecesFrom skip cs
    | 0 =>
      if c = '*' then .star :: piecesFrom 0 cs
      else if c = '?' then .any :: piecesFrom 0 cs
      else if c = '[' then
        match setLength? cs with
        | some n => setOf (cs.take n) :: piecesFrom (n + 1) cs
        | none => .char c :: piecesFrom 0 cs
      else .char c :: piecesFrom 0 cs

/-- A part of a pattern. -/
inductive Part where
  /-- Any number of directories. -/
  | anyDepth
  | name (name : String)
  | wild (pieces : List Piece)
  deriving DecidableEq, Repr

/-- A pattern; a slash at its end asks for directories. -/
structure Pattern where
  parts : List Part
  directoriesOnly : Bool
  deriving DecidableEq, Repr

/-- Why a text is no pattern. -/
inductive Invalid where
  /-- There is no text at all. -/
  | missing
  | empty
  | absolute
  | doubleStar
  /-- There is no part. -/
  | noParts
  /-- There is no part but a slash at the end. -/
  | onlySlash
  deriving DecidableEq, Repr

def Invalid.message : Invalid → String
  | missing => "Unacceptable pattern: []"
  | empty => "Unacceptable pattern: \x27\x27"
  | absolute => "Non-relative patterns are unsupported"
  | doubleStar => "Invalid pattern: '**' can only be an entire path component"
  | noParts => "tuple index out of range"
  | onlySlash => "'_TerminatingSelector' object has no attribute 'select_from'"

def hasDoubleStar : List Char → Bool
  | '*' :: '*' :: _ => true
  | _ :: cs => hasDoubleStar cs
  | [] => false

def Part.ofText (text : String) : Except Invalid Part :=
  let cs := text.toList
  if text = "**" then .ok .anyDepth
  else if hasDoubleStar cs then .error .doubleStar
  else if cs.any fun c => c = '*' || c = '?' || c = '[' then .ok (.wild (piecesFrom 0 cs))
  else .ok (.name text)

def Pattern.ofText (text : String) : Except Invalid Pattern := do
  if text.isEmpty then throw .empty
  let path := Path.ofText text
  if path.isAbsolute then throw .absolute
  let directoriesOnly := text.toList.getLast? = some '/'
  if path.parts.isEmpty then throw (if directoriesOnly then .onlySlash else .noParts)
  let parts ← path.parts.mapM Part.ofText
  return { parts, directoriesOnly }

/-- Reads a pattern, if there is one. -/
def Pattern.ofText? (text : Option String) : Except Invalid Pattern :=
  text.elim (.error .missing) Pattern.ofText

/-- Paths without repetitions, each in its first place. -/
def distinct (paths : List Path) : List Path :=
  paths.foldr (fun p rest => p :: rest.filter (· ≠ p)) []

/-- The paths that match some parts below a directory. -/
def select (d : Disk) (directoriesOnly : Bool) : List Part → Path → Except FileError (List Path)
  | [], p => .ok [p]
  | .name name :: parts, p => do
    let inner := directoriesOnly || !parts.isEmpty
    let q := p.child name
    if ← (if inner then d.isDirectory q else d.has q) then select d directoriesOnly parts q
    else return []
  | .wild pieces :: parts, p => do
    let inner := directoriesOnly || !parts.isEmpty
    let found := (d.entries p).filter fun (name, t) =>
      (!inner || t.isDirectory) && matchesName pieces name.toList
    let below ← found.mapM fun (name, _) => select d directoriesOnly parts (p.child name)
    return below.flatten
  | .anyDepth :: parts, p => do
    let directories := match d.locate p with
      | .ok place => place.here.directories
      | .error _ => []
    let below ← directories.mapM fun names =>
      select d directoriesOnly parts { p with parts := p.parts ++ names }
    return distinct below.flatten

/-- The paths below a directory that match a pattern, in order. -/
def Pattern.paths (pattern : Pattern) (d : Disk) (start : Path) : Except FileError (List Path) := do
  if ← d.isDirectory start then
    let found ← select d pattern.directoriesOnly pattern.parts start
    return found.mergeSort Path.le
  else return []

end Stencil.Glob
