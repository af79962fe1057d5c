import Stencil.Param
import Stencil.Token

/-!
# Parse errors

What can be wrong with a template, and which piece of it an error shows. The piece is given by the
indices of its tokens, so it is known before any text is put together.
-/

namespace Stencil

open Text

/-- What is wrong with a template. -/
inductive ParseCause where
  /-- A token that cannot stand where it does. -/
  | unexpected (kind : TokenKind) (position : Int)
  /-- A token that cannot stand in the body of a group. -/
  | unexpectedInGroup (kind : TokenKind) (position : Int)
  /-- A path of blanks only. -/
  | emptyPath
  /-- A path with an empty segment. -/
  | emptyPathSegment
  | missingFilterName
  | missingParameter
  /-- The text of a parameter is none. -/
  | badParameter (why : Param.Invalid)
  /-- The template ends inside a construct; the message names it. -/
  | unmatched (message : String)
  deriving DecidableEq, Repr

/-- The wording of a parse error, without the piece of the template. -/
def ParseCause.message : ParseCause → String
  | unexpected kind position => s!"Unexpected {kind.name} at position {position}"
  | unexpectedInGroup kind position =>
    s!"Unexpected {kind.name} in group at position {position}"
  | emptyPath => "Empty variable path"
  | emptyPathSegment => "Empty variable path segment"
  | missingFilterName => "Missing filter name"
  | missingParameter => "Missing filter parameter value"
  | badParameter why => why.message
  | unmatched message => message

/-- Some tokens in a row: from index `start` up to, but not including, `stop`. -/
structure Span where
  start : Nat
  stop : Option Nat := none
  deriving DecidableEq, Repr

namespace Span

/-- The tokens of a span. -/
def tokens (s : Span) (ts : List Token) : List Token :=
  match s.stop with
  | some stop => (ts.take stop).drop s.start
  | none => ts.drop s.start

/-- The text of a span. -/
def text (s : Span) (ts : List Token) : String :=
  sourceOf (s.tokens ts)

end Span

/-- Why parsing stops. -/
inductive ParseFault where
  /-- The template is malformed; the span is the piece to show. -/
  | malformed (cause : ParseCause) (span : Span)
  /-- The tokens end where a literal has to follow. -/
  | pastEnd
  deriving DecidableEq, Repr

/-- An error with the piece of the template where it lies. -/
structure ParseError where
  cause : ParseCause
  fragment : String := ""
  deriving DecidableEq, Repr

/-- A message with a piece of text, which is left out if it is empty. -/
def messageAbout (message fragment : String) : String :=
  if fragment.isEmpty then message else message ++ ": " ++ quoted fragment

/-- The wording of a parse error. -/
def ParseError.message (e : ParseError) : String :=
  messageAbout e.cause.message e.fragment

end Stencil
