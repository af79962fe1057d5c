import Stencil.Parse.Fault

/-!
# Chains of filter calls

A chain is read one token at a time. Before a call it is at rest, where a filter symbol starts the
next call and the closing symbol ends the chain; after a filter symbol it waits for a name, and after
a parameter symbol for a value.
-/

namespace Stencil.Parse

open Text

/-- What a chain of filter calls waits for. -/
inductive Stage where
  /-- A filter symbol or the end. -/
  | rest
  /-- The name of a filter. -/
  | name
  /-- A parameter symbol, a filter symbol or the end. -/
  | named (name : String)
  /-- The value of a parameter. -/
  | value (name : String)
  deriving DecidableEq, Repr

/-- A chain of filter calls that is being read, with the index of the token that its construct
opened with. The calls that are complete are kept in reverse. -/
structure Chain where
  opening : Nat
  calls : List Call := []
  stage : Stage := .rest

/-- A fault with the number of tokens that are read when it is found. -/
structure Stop where
  fault : ParseFault
  cursor : Nat
  deriving DecidableEq, Repr

/-- A malformed piece of the template. -/
def malformed (cause : ParseCause) (start stop cursor : Nat) : Stop :=
  ⟨.malformed cause ⟨start, some stop⟩, cursor⟩

/-- Where a token leads a chain. -/
inductive Chain.Step where
  | more (chain : Chain)
  | close (calls : List Call)
  | fail (stop : Stop)

namespace Chain

/-- The fault of a token that stands in the place of a literal. -/
def notLiteral (i : Nat) (t : Token) : Stop :=
  malformed (.unexpected t.kind t.position) i (i + 1) (i + 1)

/-- Between calls: another call starts, or the closing symbol ends the chain. -/
def next (closing : TokenKind) (i : Nat) (t : Token) (opening : Nat) (calls : List Call) : Step :=
  if t.kind = .filter then .more { opening, calls, stage := .name }
  else if t.kind = closing then .close calls.reverse
  else .fail (malformed (.unexpected t.kind t.position) opening (i + 1) i)

/-- Reads the token with index `i`. -/
def step (closing : TokenKind) (i : Nat) (t : Token) (c : Chain) : Step :=
  match c.stage with
  | .rest => next closing i t c.opening c.calls
  | .name =>
    if t.kind ≠ .literal then .fail (notLiteral i t)
    else
      match strip t.text.toList with
      | [] => .fail (malformed .missingFilterName c.opening (i + 2) (i + 1))
      | name => .more { c with stage := .named (String.ofList name) }
  | .named name =>
    if t.kind = .param then .more { c with stage := .value name }
    else next closing i t c.opening (⟨name, none⟩ :: c.calls)
  | .value name =>
    if t.kind ≠ .literal then .fail (notLiteral i t)
    else
      match strip t.text.toList with
      | [] => .fail (malformed .missingParameter c.opening (i + 2) (i + 1))
      | _ =>
        match Param.ofText t.text with
        | .ok param => .more { c with calls := ⟨name, some param⟩ :: c.calls, stage := .rest }
        | .error why => .fail (malformed (.badParameter why) c.opening (i + 1) (i + 1))

/-- The fault of a chain at the end of the tokens, where `cursor` is their number. -/
def atEnd (unmatched : String) (cursor : Nat) (c : Chain) : Stop :=
  match c.stage with
  | .name => ⟨.pastEnd, cursor⟩
  | .value _ => ⟨.pastEnd, cursor⟩
  | _ => ⟨.malformed (.unmatched unmatched) ⟨c.opening, none⟩, cursor⟩

/--
Reads calls up to the closing symbol, from the token with index `i` on. The result has the number of
tokens before the closing symbol.
-/
def run (closing : TokenKind) (unmatched : String) (c : Chain) (i : Nat) :
    List Token → Except Stop (List Call × Nat)
  | [] => .error (c.atEnd unmatched i)
  | t :: ts =>
    match c.step closing i t with
    | .more c => run closing unmatched c (i + 1) ts
    | .close calls => .ok (calls, i)
    | .fail stop => .error stop

end Chain

end Stencil.Parse
