import Stencil.Parse.Chain

/-!
# The parser

Nodes are read one token at a time. The state holds the groups that are open, the nodes of the
innermost one, and what stands unfinished after them; reading never goes back, so what was read
decides what may follow.
-/

namespace Stencil.Parse

open Text

/-- A group that is open: the index of its opening symbol and, in reverse, the nodes before it. -/
structure OpenGroup where
  opening : Nat
  before : List Node

/-- What stands unfinished after the nodes of the innermost body. -/
inductive Phase where
  /-- Nothing: another node may follow. -/
  | nodes
  /-- A variable that lacks its path. -/
  | path (opening : Nat)
  /-- A variable with its path, the text of that path, and its filters. -/
  | variable (path : List String) (text : String) (chain : Chain)
  /-- The filters of the innermost group. -/
  | filters (chain : Chain)

/-- How far the parser has come. The nodes of the innermost body are kept in reverse. -/
structure State where
  outer : List OpenGroup := []
  nodes : List Node := []
  phase : Phase := .nodes

/-- What is to be read: a whole template, the body of a group, or a single construct. -/
inductive Scope where
  | template
  | body
  | construct
  deriving DecidableEq, Repr

/-- Where a token leads the parser. -/
inductive State.Step where
  | more (state : State)
  /-- The token does not belong to what is to be read. -/
  | done
  | fail (stop : Stop)

/-- The message for a variable without an end. -/
def unmatchedVariable : String := "Unmatched variable start"

/-- The message for a group without an end. -/
def unmatchedGroup : String := "Unmatched group start"

/-- A body without nodes has an empty literal. -/
def bodyOf (nodes : List Node) : List Node :=
  if nodes.isEmpty then [.literal ""] else nodes

/-- The pieces of a text between points: the first and the others. -/
def splitPoints : List Char → List Char × List (List Char)
  | [] => ([], [])
  | c :: cs =>
    let r := splitPoints cs
    if c = '.' then ([], r.1 :: r.2) else (c :: r.1, r.2)

/-- The segments of a path, without the blanks around them. -/
def segmentsOf (text : List Char) : List (List Char) :=
  let r := splitPoints text
  (r.1 :: r.2).map strip

namespace State

/-- Reads the path of a variable. -/
def readPath (i : Nat) (t : Token) (opening : Nat) (s : State) : Step :=
  if t.kind ≠ .literal then .fail (Chain.notLiteral i t)
  else
    let segments := segmentsOf t.text.toList
    if segments.any List.isEmpty then
      let cause := if (strip t.text.toList).isEmpty then .emptyPath else .emptyPathSegment
      .fail (malformed cause opening (i + 2) (i + 1))
    else .more { s with phase := .variable (segments.map String.ofList) t.text { opening } }

/-- Reads a token of the filters of a variable. -/
def readVariable (symbols : Symbols) (i : Nat) (t : Token) (path : List String) (text : String)
    (chain : Chain) (s : State) : Step :=
  match chain.step .varEnd i t with
  | .more chain => .more { s with phase := .variable path text chain }
  | .close calls =>
    let source := symbols.varStart ++ text ++ symbols.varEnd
    .more { s with nodes := .variable path calls source :: s.nodes, phase := .nodes }
  | .fail stop => .fail stop

/-- Ends the innermost group. -/
def closeGroup (calls : List Call) (s : State) : State :=
  let node := Node.group (bodyOf s.nodes.reverse) calls
  match s.outer with
  | [] => { nodes := [node] }
  | g :: outer => { outer, nodes := node :: g.before }

/-- Reads a token of the filters of the innermost group. -/
def readFilters (i : Nat) (t : Token) (chain : Chain) (s : State) : Step :=
  match chain.step .groupEnd i t with
  | .more chain => .more { s with phase := .filters chain }
  | .close calls => .more (s.closeGroup calls)
  | .fail stop => .fail stop

/-- Reads a token after a whole node. -/
def readNode (scope : Scope) (i : Nat) (t : Token) (s : State) : Step :=
  if s.outer.isEmpty && scope = .construct then .done
  else
    match t.kind with
    | .literal =>
      .more (if t.text.isEmpty then s else { s with nodes := .literal t.text :: s.nodes })
    | .varStart => .more { s with phase := .path i }
    | .groupStart => .more { outer := ⟨i, s.nodes⟩ :: s.outer }
    | .filter | .groupEnd =>
      match s.outer with
      | [] => .done
      | g :: _ => s.readFilters i t { opening := g.opening }
    | .varEnd | .param =>
      if s.outer.isEmpty && scope = .template then .done
      else .fail (malformed (.unexpectedInGroup t.kind t.position) (i - 1) (i + 2) i)

/-- Reads the token with index `i`. -/
def step (symbols : Symbols) (scope : Scope) (i : Nat) (t : Token) (s : State) : Step :=
  match s.phase with
  | .nodes => s.readNode scope i t
  | .path opening => s.readPath i t opening
  | .variable path text chain => s.readVariable symbols i t path text chain
  | .filters chain => s.readFilters i t chain

/-- The nodes at the end of the tokens, or what is unfinished there; `cursor` counts the tokens. -/
def finish (cursor : Nat) (s : State) : Except Stop (List Node × Nat) :=
  match s.phase with
  | .nodes =>
    match s.outer with
    | [] => .ok (s.nodes.reverse, cursor)
    | g :: _ => .error ⟨.malformed (.unmatched unmatchedGroup) ⟨g.opening, none⟩, cursor⟩
  | .path _ => .error ⟨.pastEnd, cursor⟩
  | .variable _ _ chain => .error (chain.atEnd unmatchedVariable cursor)
  | .filters chain => .error (chain.atEnd unmatchedGroup cursor)

/--
Reads tokens from index `i` on, up to the first that does not belong to what is to be read. The
result has the number of tokens before that one.
-/
def run (symbols : Symbols) (scope : Scope) (s : State) (i : Nat) :
    List Token → Except Stop (List Node × Nat)
  | [] => s.finish i
  | t :: ts =>
    match s.step symbols scope i t with
    | .more s => run symbols scope s (i + 1) ts
    | .done => .ok (s.nodes.reverse, i)
    | .fail stop => .error stop

end State

end Stencil.Parse
