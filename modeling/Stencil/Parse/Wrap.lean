import Stencil.Parse

/-!
# Reading from before the start

An index below zero counts from the end of the tokens. Reading from there goes on with the first
token after the last one, so it is reading in a longer stream, in which the last tokens stand before
the first one as well. Places in the longer stream are then counted from the first token again.
-/

namespace Stencil

/-- The index of a token, in a stream with `back` tokens before its start, as one of `count`. -/
def unwrapIndex (count back i : Nat) : Nat :=
  if i < back then count + i - back else i - back

/--
A span of a stream with `back` tokens before its start, as one of the `count` tokens alone. A single
token stays that token; a longer span that starts before the first token starts at the first.
-/
def Span.unwrap (count back : Nat) (s : Span) : Span :=
  if s.stop = some (s.start + 1) then
    let start := unwrapIndex count back s.start
    { start, stop := some (start + 1) }
  else { start := s.start - back, stop := s.stop.map (unwrapIndex count back) }

/-- A fault in a stream with `back` tokens before its start. -/
def ParseFault.unwrap (count back : Nat) : ParseFault → ParseFault
  | .malformed cause span => .malformed cause (span.unwrap count back)
  | .pastEnd => .pastEnd

namespace Parse

/-- Where reading starts: at an index in a stream that has `back` tokens before its start. -/
structure Start where
  tokens : List Token
  index : Nat
  back : Nat

/-- The start for an index, unless it is before the first token even if counted from the end. -/
def Start.at? (tokens : List Token) : Int → Option Start
  | .ofNat i => some ⟨tokens, i, 0⟩
  | .negSucc k =>
    if k < tokens.length then some ⟨tokens.drop (tokens.length - (k + 1)) ++ tokens, 0, k + 1⟩
    else none

/-- The token at an index. -/
def tokenAt? (tokens : List Token) (i : Int) : Option Token :=
  (Start.at? tokens i).bind fun s => s.tokens[s.index]?

/-- Reads from an index on. The result, or the fault, comes with the index after it. -/
def readFrom {α : Type} (tokens : List Token) (i : Int) (read : Start → Except Stop (α × Nat)) :
    Except (ParseFault × Int) (α × Int) :=
  match Start.at? tokens i with
  | none => .error (.pastEnd, i)
  | some s =>
    match read s with
    | .ok (result, j) => .ok (result, j - s.back)
    | .error stop => .error (stop.fault.unwrap tokens.length s.back, stop.cursor - s.back)

end Parse

end Stencil
