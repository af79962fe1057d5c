import Stencil.Text.Quoted

/-!
# Paths

A path has a root, perhaps, and components. Empty components and single dots are dropped when a path
is read or joined, double dots are kept.
-/

namespace Stencil

open Text

/-- A path: an empty root for a relative path, one slash or two for an absolute one. -/
structure Path where
  root : String := ""
  parts : List String := []
  deriving DecidableEq, Repr, Inhabited

namespace Path

/-- The pieces of a text between slashes: the first and the others. -/
def splitSlashes : List Char → List Char × List (List Char)
  | [] => ([], [])
  | c :: cs =>
    let r := splitSlashes cs
    if c = '/' then ([], r.1 :: r.2) else (c :: r.1, r.2)

def componentsOf (text : String) : List String :=
  let r := splitSlashes text.toList
  ((r.1 :: r.2).map String.ofList).filter fun part => part ≠ "" && part ≠ "."

/-- The root of a text: exactly two slashes are a root of their own. -/
def rootOf (text : String) : String :=
  match text.toList.takeWhile (· = '/') with
  | [] => ""
  | [_, _] => "//"
  | _ => "/"

def ofText (text : String) : Path :=
  ⟨rootOf text, componentsOf text⟩

/-- The text of a path; a single dot if there is nothing else. -/
def text (p : Path) : String :=
  if p.root = "" && p.parts.isEmpty then "." else p.root ++ "/".intercalate p.parts

def isAbsolute (p : Path) : Bool :=
  p.root ≠ ""

def parent (p : Path) : Path :=
  { p with parts := p.parts.dropLast }

/-- The last component, or nothing. -/
def name (p : Path) : String :=
  p.parts.getLastD ""

/-- A path with one more component, taken as it is. -/
def child (p : Path) (name : String) : Path :=
  { p with parts := p.parts ++ [name] }

def join (p q : Path) : Path :=
  if q.isAbsolute then q
  else { p with parts := p.parts ++ q.parts.filter fun part => part ≠ "." }

/-- A name before and from its last point on; a point at either end is none. -/
def splitSuffix (name : List Char) : List Char × List Char :=
  let after := name.reverse.takeWhile (· ≠ '.')
  let before := name.take (name.length - after.length - 1)
  if after.length = name.length || after.isEmpty || before.isEmpty then (name, [])
  else (before, '.' :: after.reverse)

/-- The suffix of the last component: its last point and what follows. -/
def suffix (p : Path) : String :=
  String.ofList (splitSuffix p.name.toList).2

def dropSuffix (p : Path) : Path :=
  { p with parts := p.parts.dropLast ++ [String.ofList (splitSuffix p.name.toList).1] }

/-- A path does not start with another one. -/
structure NotBelow where
  path : Path
  base : Path
  deriving DecidableEq, Repr

/-- The wording for a path that does not start with another one. -/
def NotBelow.message (e : NotBelow) : String :=
  let base := if e.base = {} then "" else e.base.text
  quoted e.path.text ++ " is not in the subpath of " ++ quoted base ++
    " OR one path is relative and the other is absolute."

def relativeTo (p base : Path) : Except NotBelow Path :=
  if p.root = base.root && base.parts.isPrefixOf p.parts then
    .ok ⟨"", p.parts.drop base.parts.length⟩
  else .error ⟨p, base⟩

def nameLe : List Char → List Char → Bool
  | [], _ => true
  | _ :: _, [] => false
  | c :: cs, d :: ds => if c = d then nameLe cs ds else c.toNat < d.toNat

/-- Orders lists of names by the first names that differ. -/
def namesLe : List String → List String → Bool
  | [], _ => true
  | _ :: _, [] => false
  | n :: ns, m :: ms => if n = m then namesLe ns ms else nameLe n.toList m.toList

def le (p q : Path) : Bool :=
  namesLe (p.root :: p.parts) (q.root :: q.parts)

end Path

end Stencil
