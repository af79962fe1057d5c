/-!
# Shortest decimals

A double is written with the fewest digits that read back as the same number, and among those with
the digits nearest to it; a decimal is read as the double nearest to it. All arithmetic is exact, on
natural numbers.
-/

namespace Stencil.Numeral

/-- A power of two. -/
def twoTo (n : Nat) : Nat :=
  Nat.pow 2 n

/-- A power of ten. -/
def tenTo (n : Nat) : Nat :=
  Nat.pow 10 n

/-- The bit of a double that holds its sign. -/
def signBit : Nat := 0x8000000000000000

/-- A positive double `mantissa * 2 ^ exponent`. -/
structure Dyadic where
  mantissa : Nat
  exponent : Int
  /-- The gap below the number is half the gap above it. -/
  narrowBelow : Bool
  deriving DecidableEq, Repr

/-- A number `coefficient * 10 ^ exponent`. -/
structure Decimal where
  coefficient : Nat
  exponent : Int
  deriving DecidableEq, Repr

namespace Dyadic

/-- The magnitude of a finite double, from its bits. -/
def ofBits (bits : Nat) : Dyadic :=
  let fraction : Nat := bits % twoTo 52
  let biased : Nat := bits / twoTo 52 % twoTo 11
  if biased = 0 then ⟨fraction, -1074, false⟩
  else ⟨twoTo 52 + fraction, (biased : Int) - 1075, fraction = 0 && biased > 1⟩

/-- The unit in which the number and the ends of its interval are whole: a quarter of its ulp. -/
def unit (d : Dyadic) : Nat × Nat :=
  (twoTo d.exponent.toNat, 4 * twoTo (-d.exponent).toNat)

/-- The number in quarters of its ulp. -/
def quarters (d : Dyadic) : Nat :=
  4 * d.mantissa

/--
Tells whether the fraction `num / den` rounds to the number: it lies within half a gap, and on the
ends of that interval if the mantissa is even.
-/
def covers (d : Dyadic) (num den : Nat) : Bool :=
  let x := num * d.unit.2
  let low := (d.quarters - if d.narrowBelow then 1 else 2) * d.unit.1 * den
  let high := (d.quarters + 2) * d.unit.1 * den
  if d.mantissa % 2 = 0 then low ≤ x && x ≤ high else low < x && x < high

/-- The number as a fraction. -/
def fraction (d : Dyadic) : Nat × Nat :=
  (d.quarters * d.unit.1, d.unit.2)

/-- The decimal that is equal to the number. -/
def exact (d : Dyadic) : Decimal :=
  ⟨d.mantissa * twoTo d.exponent.toNat * Nat.pow 5 (-d.exponent).toNat, min d.exponent 0⟩

end Dyadic

/-- The number of decimal digits of a natural number, at least one. -/
def digitCount (n : Nat) : Nat :=
  (Nat.toDigits 10 n).length

/-- A power of ten as a fraction. -/
def powerOfTen (k : Int) : Nat × Nat :=
  (tenTo k.toNat, tenTo (-k).toNat)

/-- An exponent, at most two too large, of the first power of ten above the number. -/
def magnitude (d : Dyadic) : Int :=
  let (num, den) := d.fraction
  if den ≤ num then digitCount (num / den) else 2 - (digitCount (den / num) : Int)

/--
The multiple of `10 ^ exponent` that rounds to the number, if there is one. Of the two neighbours
of the number the nearer is tried first, and the even one if both are as near.
-/
def onGrid? (d : Dyadic) (exponent : Int) : Option Decimal :=
  let (num, den) := d.fraction
  let (up, down) := powerOfTen exponent
  let step := den * up
  let below := num * down / step
  let rest := 2 * (num * down % step)
  let nearer :=
    if rest < step then below
    else if step < rest then below + 1
    else if below % 2 = 0 then below else below + 1
  let farther := if nearer = below then below + 1 else below
  if d.covers (nearer * up) down then some ⟨nearer, exponent⟩
  else if d.covers (farther * up) down then some ⟨farther, exponent⟩
  else none

/-- The first hit on grids of finer and finer steps, or the exact decimal after `count` of them. -/
def firstOnGrid (d : Dyadic) (exponent : Int) : Nat → Decimal
  | 0 => d.exact
  | count + 1 =>
    match onGrid? d exponent with
    | some found => found
    | none => firstOnGrid d (exponent - 1) count

/-- Takes up to `count` zeros off the end of the coefficient. -/
def Decimal.trim (x : Decimal) : Nat → Decimal
  | 0 => x
  | count + 1 =>
    if x.coefficient % 10 = 0 then trim ⟨x.coefficient / 10, x.exponent + 1⟩ count else x

/-- The shortest decimal that reads back as the number. -/
def shortest (d : Dyadic) : Decimal :=
  let found := firstOnGrid d (magnitude d) 20
  found.trim (digitCount found.coefficient - 1)

/-- A quotient rounded to the nearest whole number, a half going to the even neighbour. -/
def roundedQuotient (num den : Nat) : Nat :=
  let below := num / den
  let rest := 2 * (num % den)
  if rest < den then below
  else if den < rest then below + 1
  else if below % 2 = 0 then below else below + 1

/-- The bits of positive infinity. -/
def infinityBits : Nat := 0x7FF0000000000000

/-- The bits of the double nearest to a positive fraction. -/
def nearestBits (num den : Nat) : Nat :=
  let guess := (num.log2 : Int) - den.log2 - 52
  let low := num * twoTo (-guess).toNat < twoTo 52 * den * twoTo guess.toNat
  let guess := if low then guess - 1 else guess
  let exponent := max guess (-1074)
  let mantissa := roundedQuotient (num * twoTo (-exponent).toNat) (den * twoTo exponent.toNat)
  min infinityBits ((exponent + 1074).toNat * twoTo 52 + mantissa)

/-- The double nearest to a decimal that is not negative. -/
def Decimal.toFloat (x : Decimal) : Float :=
  let magnitude := digitCount x.coefficient + x.exponent
  let bits :=
    if x.coefficient = 0 || magnitude < -400 then 0
    else if magnitude > 400 then infinityBits
    else
      let (up, down) := powerOfTen x.exponent
      nearestBits (x.coefficient * up) down
  Float.ofBits bits.toUInt64

end Stencil.Numeral
