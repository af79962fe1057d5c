import Stencil.Numeral.Shortest

/-!
# Text of floating point numbers

Numbers from `10 ^ (-4)` up to, but not including, `10 ^ 16` are written positionally, with at least
one digit after the point; others with an exponent of at least two digits and its sign.
-/

namespace Stencil.Numeral

/-- Positional notation of digits whose first one stands just after the point, shifted by `point`. -/
def positional (digits : List Char) (point : Int) : List Char :=
  if point ≤ 0 then '0' :: '.' :: List.replicate (-point).toNat '0' ++ digits
  else
    let whole := point.toNat
    if digits.length ≤ whole then
      digits ++ List.replicate (whole - digits.length) '0' ++ ['.', '0']
    else digits.take whole ++ '.' :: digits.drop whole

def twoDigits (n : Nat) : List Char :=
  if n < 10 then '0' :: Nat.toDigits 10 n else Nat.toDigits 10 n

/-- Notation with an exponent: one digit before the point, and no point if there is no other. -/
def scientific (digits : List Char) (point : Int) : List Char :=
  let exponent := point - 1
  let head := match digits with
    | [] => []
    | [d] => [d]
    | d :: rest => d :: '.' :: rest
  head ++ 'e' :: (if exponent < 0 then '-' else '+') :: twoDigits exponent.natAbs

def Decimal.text (x : Decimal) : List Char :=
  let digits := Nat.toDigits 10 x.coefficient
  let point := digits.length + x.exponent
  if -4 < point && point ≤ 16 then positional digits point else scientific digits point

def floatText (x : Float) : String :=
  let bits := x.toBits.toNat
  let negative := bits ≥ signBit
  if x.isNaN then "nan"
  else
    let magnitude :=
      if bits % signBit = infinityBits then ['i', 'n', 'f']
      else if bits % signBit = 0 then ['0', '.', '0']
      else (shortest (Dyadic.ofBits bits)).text
    String.ofList (if negative then '-' :: magnitude else magnitude)

end Stencil.Numeral
