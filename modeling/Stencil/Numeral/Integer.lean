import Stencil.Text.DecimalDigit

/-!
# Integer numerals

Decimal numerals of integers. Numerals of more than 4300 digits are neither read nor written.
-/

namespace Stencil.Numeral

open Text

/-- The longest numeral that is read or written. -/
def maxDigits : Nat := 4300

def tooLarge : Nat := Nat.pow 10 maxDigits

def isAsciiDigit (c : Char) : Bool :=
  '0' ≤ c && c ≤ '9'

def splitMinus : List Char → Bool × List Char
  | '-' :: cs => (true, cs)
  | cs => (false, cs)

/-- The number with the given digits, the first one counting most. -/
def ofDigits (ds : List Nat) : Nat :=
  ds.foldl (fun n d => 10 * n + d) 0

/-- The numeral of an integer, if it is short enough. -/
def integerText? (n : Int) : Option String :=
  if n.natAbs < tooLarge then
    let digits := Nat.toDigits 10 n.natAbs
    some (String.ofList (if n < 0 then '-' :: digits else digits))
  else none

/-- The number with the given digits, or their count if there are too many. -/
def readInteger (negative : Bool) (ds : List Nat) : Except Nat Int :=
  if ds.length ≤ maxDigits then
    .ok (if negative then -(ofDigits ds : Int) else ofDigits ds)
  else .error ds.length

/-- The wording for a numeral that is too long, with its length if it was to be read. -/
def tooLongMessage (digits : Option Nat) : String :=
  "Exceeds the limit (4300 digits) for integer string conversion" ++
    (match digits with
      | some n => s!": value has {n} digits"
      | none => "") ++
    "; use sys.set_int_max_str_digits() to increase the limit"

end Stencil.Numeral
