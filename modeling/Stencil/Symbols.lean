import Stencil.Entries
import Stencil.Text.Blank
import Stencil.Text.Cluster
import Stencil.Text.Quoted

/-!
# Symbols

The six symbols that give a template its structure. Each is a whole grapheme cluster; a table read
from a text has six distinct symbols and none of them is blank.
-/

namespace Stencil

open Text

/-- The kinds of token: plain text, and one kind for each role of a symbol. -/
inductive TokenKind where
  | literal
  | varStart
  | varEnd
  | groupStart
  | groupEnd
  | filter
  | param
  deriving DecidableEq, Repr, Inhabited

namespace TokenKind

def name : TokenKind → String
  | literal => "LITERAL"
  | varStart => "VAR_START"
  | varEnd => "VAR_END"
  | groupStart => "GROUP_START"
  | groupEnd => "GROUP_END"
  | filter => "FILTER"
  | param => "PARAM"

/-- All kinds, text first and then the roles in the order of a symbol text. -/
def all : List TokenKind :=
  [literal, varStart, varEnd, groupStart, groupEnd, filter, param]

def ofName? (name : String) : Option TokenKind :=
  all.find? (·.name = name)

end TokenKind

/-- The default symbols, as one text. -/
def defaultTokens : String := "\x7b\x7d[]|="

/-- One symbol for each role. -/
structure Symbols where
  varStart : String := "\x7b"
  varEnd : String := "\x7d"
  groupStart : String := "["
  groupEnd : String := "]"
  filter : String := "|"
  param : String := "="
  deriving DecidableEq, Repr, Inhabited

namespace Symbols

/-- The symbols with their roles, in the order of a symbol text. -/
def roles (s : Symbols) : List (String × TokenKind) :=
  [(s.varStart, .varStart), (s.varEnd, .varEnd), (s.groupStart, .groupStart),
    (s.groupEnd, .groupEnd), (s.filter, .filter), (s.param, .param)]

/-- The kind that each symbol produces. Of equal symbols the last role counts. -/
def kinds (s : Symbols) : Entries TokenKind :=
  Entries.ofList s.roles

/-- The kind that a cluster produces, if it is a symbol. -/
def kind? (s : Symbols) (cluster : String) : Option TokenKind :=
  s.kinds.get? cluster

/-- The symbols in order, as one text. -/
def text (s : Symbols) : String :=
  s.varStart ++ s.varEnd ++ s.groupStart ++ s.groupEnd ++ s.filter ++ s.param

/-- Why a text holds no table of symbols. -/
inductive Invalid where
  | count (found : Nat) (tokens : String)
  | repeated (tokens : String)
  | blank (tokens : String)
  deriving DecidableEq, Repr

def Invalid.message : Invalid → String
  | .count n tokens => s!"Expected 6 token symbols, got {n}: " ++ quoted tokens
  | .repeated tokens => "Token symbols must be distinct: " ++ quoted tokens
  | .blank tokens => "Token symbols cannot be whitespace: " ++ quoted tokens

/-- Reads a table from a text of exactly six distinct clusters, none of them blank. -/
def ofText (tokens : String) : Except Invalid Symbols :=
  match segment tokens with
  | [a, b, c, d, e, f] =>
    let symbols := [a, b, c, d, e, f]
    if ¬ symbols.Nodup then .error (.repeated tokens)
    else if symbols.any fun s => isBlankText s.toList then .error (.blank tokens)
    else .ok ⟨a, b, c, d, e, f⟩
  | symbols => .error (.count symbols.length tokens)

end Symbols

end Stencil
