import Stencil.Parse.State

/-!
# Parsing

Nodes of a whole token stream, and the single constructs at a place in it.
-/

namespace Stencil

namespace Parse

/-- Reads nodes from the token with index `i` on. -/
def nodesAt (symbols : Symbols) (scope : Scope) (tokens : List Token) (i : Nat) :
    Except Stop (List Node × Nat) :=
  State.run symbols scope {} i (tokens.drop i)

/-- Skips the token with index `i` and reads on in state `s`, up to the end of one construct. -/
def constructAt (symbols : Symbols) (tokens : List Token) (i : Nat) (s : State) :
    Except Stop (List Node × Nat) :=
  match tokens.drop i with
  | [] => .error ⟨.pastEnd, i⟩
  | _ :: rest => State.run symbols .construct s (i + 1) rest

/-- Reads the variable whose opening symbol has index `i`. -/
def variableAt (symbols : Symbols) (tokens : List Token) (i : Nat) :
    Except Stop (List Node × Nat) :=
  constructAt symbols tokens i { phase := .path i }

/-- Reads the group whose opening symbol has index `i`. -/
def groupAt (symbols : Symbols) (tokens : List Token) (i : Nat) :
    Except Stop (List Node × Nat) :=
  constructAt symbols tokens i { outer := [⟨i, []⟩] }

/-- Reads filter calls from the token with index `i` on, up to a closing symbol. -/
def filtersAt (closing : TokenKind) (unmatched : String) (opening : Nat) (tokens : List Token)
    (i : Nat) : Except Stop (List Call × Nat) :=
  Chain.run closing unmatched { opening } i (tokens.drop i)

/-- Reads the literal with index `i`. -/
def literalAt (tokens : List Token) (i : Nat) : Except Stop (Token × Nat) :=
  match tokens[i]? with
  | none => .error ⟨.pastEnd, i⟩
  | some t => if t.kind = .literal then .ok (t, i + 1) else .error (Chain.notLiteral i t)

/--
Reads a whole stream. A symbol that no node can take up is unexpected. The result has the number of
tokens read.
-/
def whole (symbols : Symbols) (tokens : List Token) : Except Stop (List Node × Nat) :=
  match nodesAt symbols .template tokens 0 with
  | .error stop => .error stop
  | .ok (nodes, i) =>
    match tokens[i]? with
    | none => .ok (bodyOf nodes, i)
    | some t => .error (malformed (.unexpected t.kind t.position) (i - 1) (i + 2) i)

end Parse

/-- Why a stream of tokens has no nodes. -/
inductive ParseFailure where
  | malformed (error : ParseError)
  /-- The tokens end where a literal has to follow. -/
  | pastEnd
  deriving DecidableEq, Repr

/-- A fault with the text of its span. -/
def ParseFault.failure (tokens : List Token) : ParseFault → ParseFailure
  | .malformed cause span => .malformed ⟨cause, span.text tokens⟩
  | .pastEnd => .pastEnd

/-- The nodes of a stream of tokens. -/
def parse (symbols : Symbols) (tokens : List Token) : Except ParseFailure (List Node) :=
  match Parse.whole symbols tokens with
  | .ok (nodes, _) => .ok nodes
  | .error stop => .error (stop.fault.failure tokens)

/-- The nodes of a template. -/
def compile (symbols : Symbols) (template : String) : Except ParseFailure (List Node) :=
  parse symbols (tokenize symbols template)

end Stencil
