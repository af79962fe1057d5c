import Stencil.Numeral.Integer
import Stencil.Numeral.Shortest

/-!
# Spellings of numbers

A number is written with an optional minus sign, decimal digits of any script with an optional point
before, between or after them, and an optional exponent.
-/

namespace Stencil.Numeral

open Text

/-- A numeral: an optional sign, digits with an optional point, and an optional exponent. -/
structure Spelling where
  negative : Bool
  whole : List Nat
  point : Bool
  fraction : List Nat
  exponent : Option Int
  deriving Repr

namespace Spelling

/-- The digits at the start of a text, with the rest. -/
def digits : List Char → List Nat × List Char
  | [] => ([], [])
  | c :: cs =>
    match decimalDigit? c with
    | none => ([], c :: cs)
    | some d =>
      let r := digits cs
      (d :: r.1, r.2)

/-- A point at the start of a text, with the rest. -/
def splitPoint : List Char → Bool × List Char
  | '.' :: cs => (true, cs)
  | cs => (false, cs)

/-- A sign at the start of a text, with the rest. -/
def splitSign : List Char → Bool × List Char
  | '-' :: cs => (true, cs)
  | '+' :: cs => (false, cs)
  | cs => (false, cs)

/-- A whole exponent: the letter e, an optional sign and digits. Nothing at all is no exponent. -/
def readExponent? : List Char → Option (Option Int)
  | [] => some none
  | c :: cs =>
    if c = 'e' || c = 'E' then
      let (negative, cs) := splitSign cs
      let (ds, rest) := digits cs
      if ds.isEmpty || !rest.isEmpty then none
      else some (some (if negative then -(ofDigits ds : Int) else ofDigits ds))
    else none

def read? (cs : List Char) : Option Spelling :=
  let (negative, cs) := splitMinus cs
  let (whole, cs) := digits cs
  let (point, cs) := splitPoint cs
  let (fraction, cs) := if point then digits cs else ([], cs)
  if whole.isEmpty && fraction.isEmpty then none
  else (readExponent? cs).map fun exponent => { negative, whole, point, fraction, exponent }

/-- Tells whether a numeral is that of an integer: digits only, after the sign. -/
def isInteger (s : Spelling) : Bool :=
  !s.point && s.exponent.isNone

/-- The number that a numeral stands for, as a floating point number. -/
def toFloat (s : Spelling) : Float :=
  let magnitude := Decimal.toFloat
    ⟨ofDigits (s.whole ++ s.fraction), s.exponent.getD 0 - s.fraction.length⟩
  if s.negative then -magnitude else magnitude

end Spelling

end Stencil.Numeral
