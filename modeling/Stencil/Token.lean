import Stencil.Symbols

/-!
# Tokens

A template is cut into tokens at the symbols. A literal, perhaps an empty one, stands before every
symbol and at the end, so literals and symbols alternate.
-/

namespace Stencil

open Text

/--
A piece of a template: its kind, its text, and its position, which for the pieces of a template is
the number of clusters before it. Tokens that are made by hand may have any position.
-/
structure Token where
  kind : TokenKind
  text : String
  position : Int := 0
  deriving DecidableEq, Repr, Inhabited

/-- The clusters of the literal that is open, and the tokens after it. -/
def scan (symbols : Symbols) (position : Nat) : List String → List String × List Token
  | [] => ([], [])
  | c :: cs =>
    let r := scan symbols (position + 1) cs
    match symbols.kind? c with
    | none => (c :: r.1, r.2)
    | some k => ([], ⟨k, c, position⟩ :: ⟨.literal, String.join r.1, position + 1⟩ :: r.2)

/-- The tokens of a text that is already cut into clusters. -/
def tokensOf (symbols : Symbols) (clusters : List String) : List Token :=
  let r := scan symbols 0 clusters
  ⟨.literal, String.join r.1, 0⟩ :: r.2

def tokenize (symbols : Symbols) (template : String) : List Token :=
  tokensOf symbols (segment template)

def sourceOf (tokens : List Token) : String :=
  String.join (tokens.map (·.text))

end Stencil
