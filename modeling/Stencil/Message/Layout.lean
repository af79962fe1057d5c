import Stencil.Numeral.Floating
import Stencil.Text.DecimalDigit
import Stencil.Value

/-!
# Layout of values in messages

A layout tells how a value is written into a message: the width with the fill around the text, the
sign, the grouping of digits, the precision, and the notation of numbers. Roundings are exact, and a
half goes to the even neighbour.
-/

namespace Stencil.Message

open Numeral

/-- Where a text stands within its width; `afterSign` puts the fill between a sign and digits. -/
inductive Alignment where
  | left
  | right
  | center
  | afterSign
  deriving DecidableEq, Repr

def Alignment.ofChar? : Char → Option Alignment
  | '<' => some left
  | '>' => some right
  | '^' => some center
  | '=' => some afterSign
  | _ => none

/-- How a value is to be written. -/
structure Layout where
  fill : Char := ' '
  alignment : Option Alignment := none
  sign : Option Char := none
  /-- A negative zero loses its sign. -/
  coerceZero : Bool := false
  alternate : Bool := false
  width : Option Nat := none
  grouping : Option Char := none
  precision : Option Nat := none
  code : Option Char := none
  deriving DecidableEq, Repr

/-- Why a value cannot be laid out. -/
inductive LayoutError where
  | tooManyDigits
  | bothGroupings
  | missingPrecision
  | invalid (spec typeName : String)
  | grouping (separator code : Char)
  | unknownCode (code : Char) (typeName : String)
  | unsupported (typeName : String)
  /-- Something that the layout of texts does not have. -/
  | notForText (what : String)
  /-- Something that the layout of integers does not have. -/
  | notForInteger (what : String)
  /-- Something that the layout of a character by its number does not have. -/
  | notForCharacter (what : String)
  | noCharacter
  | tooLargeForCharacter
  | tooLargeForFloat
  | precisionTooBig
  /-- No memory holds a text of the width. -/
  | noMemory
  deriving DecidableEq, Repr

def escapedCode (c : Char) : String :=
  "\\x" ++ String.ofList (Nat.toDigits 16 c.toNat)

def shownCode (c : Char) : String :=
  if 32 < c.toNat && c.toNat < 128 then String.ofList [c] else escapedCode c

def LayoutError.message : LayoutError → String
  | tooManyDigits => "Too many decimal digits in format string"
  | bothGroupings => "Cannot specify both ',' and '_'."
  | missingPrecision => "Format specifier missing precision"
  | invalid spec typeName =>
    s!"Invalid format specifier '{spec}' for object of type '{typeName}'"
  | grouping separator code =>
    "Cannot specify '" ++ shownCode separator ++ "' with '" ++ shownCode code ++ "'."
  | unknownCode code typeName =>
    "Unknown format code '" ++ shownCode code ++ "' for object of type '" ++ typeName ++ "'"
  | unsupported typeName => s!"unsupported format string passed to {typeName}.__format__"
  | notForText what => what ++ " not allowed in string format specifier"
  | notForInteger what => what ++ " not allowed in integer format specifier"
  | notForCharacter what => what ++ " not allowed with integer format specifier 'c'"
  | noCharacter => "%c arg not in range(0x110000)"
  | tooLargeForCharacter => "Python int too large to convert to C long"
  | tooLargeForFloat => "int too large to convert to float"
  | precisionTooBig => "precision too big"
  | noMemory => ""

/-! ## Reading a layout -/

/-- The decimal digits at the start of a text, with the rest. -/
def digitsOf : List Char → List Nat × List Char
  | [] => ([], [])
  | c :: cs =>
    match Text.decimalDigit? c with
    | none => ([], c :: cs)
    | some d =>
      let r := digitsOf cs
      (d :: r.1, r.2)

/-- The largest number in a message. -/
def maxNumber : Nat := signBit - 1

/-- A number at the start of a text, if there is one, with the rest. -/
def numberAt (cs : List Char) : Except LayoutError (Option Nat × List Char) :=
  match digitsOf cs with
  | ([], rest) => .ok (none, rest)
  | (ds, rest) =>
    if ofDigits ds ≤ maxNumber then .ok (some (ofDigits ds), rest) else .error .tooManyDigits

/-- Takes a character off the start of a text if it is there. -/
def takeChar (c : Char) : List Char → Bool × List Char
  | [] => (false, [])
  | d :: cs => if d = c then (true, cs) else (false, d :: cs)

/-- The fill and the alignment at the start of a text, with the rest. -/
def alignmentAt (cs : List Char) : Option Char × Option Alignment × List Char :=
  match cs with
  | fill :: c :: rest =>
    match Alignment.ofChar? c with
    | some a => (some fill, some a, rest)
    | none =>
      match Alignment.ofChar? fill with
      | some a => (none, some a, c :: rest)
      | none => (none, none, cs)
  | [c] =>
    match Alignment.ofChar? c with
    | some a => (none, some a, [])
    | none => (none, none, cs)
  | [] => (none, none, [])

/-- The sign at the start of a text, with the rest. -/
def signAt : List Char → Option Char × List Char
  | [] => (none, [])
  | c :: cs => if c = ' ' || c = '+' || c = '-' then (some c, cs) else (none, c :: cs)

/-- The grouping at the start of a text, with the rest. -/
def groupingAt (cs : List Char) : Except LayoutError (Option Char × List Char) :=
  let (comma, cs) := takeChar ',' cs
  let (underscore, cs) := takeChar '_' cs
  if comma && underscore then .error .bothGroupings
  else if underscore && cs.head? = some ',' then .error .bothGroupings
  else .ok (if comma then some ',' else if underscore then some '_' else none, cs)

/-- The precision at the start of a text, with the rest. -/
def precisionAt (cs : List Char) : Except LayoutError (Option Nat × List Char) :=
  match takeChar '.' cs with
  | (false, cs) => .ok (none, cs)
  | (true, cs) => do
    match ← numberAt cs with
    | (none, _) => throw .missingPrecision
    | found => return found

def mayGroup (separator : Char) (code : Option Char) : Bool :=
  match code with
  | none => true
  | some c =>
    ['d', 'e', 'f', 'g', 'E', 'G', '%', 'F'].contains c ||
      (separator = '_' && ['b', 'o', 'x', 'X'].contains c)

/--
Reads a layout for values of a type. Numbers stand to the right and texts to the left unless the
layout says where; `usual` is the code that is meant if there is none.
-/
def Layout.ofText (spec typeName : String) (number : Bool) (usual : Option Char) :
    Except LayoutError Layout := do
  let (fill, alignment, cs) := alignmentAt spec.toList
  let (sign, cs) := signAt cs
  let (coerceZero, cs) := takeChar 'z' cs
  let (alternate, cs) := takeChar '#' cs
  let (zero, cs) := if fill.isNone then takeChar '0' cs else (false, cs)
  let alignment := if zero && alignment.isNone && number then some .afterSign else alignment
  let fill := fill.getD (if zero then '0' else ' ')
  let (width, cs) ← numberAt cs
  let (grouping, cs) ← groupingAt cs
  let (precision, cs) ← precisionAt cs
  let code ← match cs with
    | [] => pure none
    | [c] => pure (some c)
    | _ => throw (.invalid spec typeName)
  let code := code.or usual
  match grouping with
  | some separator =>
    if !mayGroup separator code then throw (.grouping separator (code.getD ' '))
  | none => pure ()
  return { fill, alignment, sign, coerceZero, alternate, width, grouping, precision, code }

/-- The largest width that there is memory for. -/
def maxWidth : Nat := 0x400000000

def maxPrecision : Nat := 0x7FFFFFFF

def Layout.checkWidth (l : Layout) : Except LayoutError Unit :=
  if l.width.getD 0 > maxWidth then .error .noMemory else .ok ()

/-! ## Laying out texts -/

def Layout.pad (l : Layout) (usual : Alignment) (cs : List Char) : List Char :=
  let missing := l.width.getD 0 - cs.length
  match l.alignment.getD usual with
  | .left => cs ++ List.replicate missing l.fill
  | .center =>
    List.replicate (missing / 2) l.fill ++ cs ++ List.replicate (missing - missing / 2) l.fill
  | _ => List.replicate missing l.fill ++ cs

/-- Lays out a text: at most as many characters as the precision says, and fill up to the width. -/
def layText (spec : String) (text : String) : Except LayoutError String := do
  let l ← Layout.ofText spec "str" false (some 's')
  if l.code ≠ some 's' then throw (.unknownCode (l.code.getD ' ') "str")
  match l.sign with
  | some ' ' => throw (.notForText "Space")
  | some _ => throw (.notForText "Sign")
  | none => pure ()
  if l.coerceZero then throw (.notForText "Negative zero coercion (z)")
  if l.alternate then throw (.notForText "Alternate form (#)")
  if l.alignment = some .afterSign then throw (.notForText "'=' alignment")
  l.checkWidth
  let cs := text.toList
  let cs := match l.precision with
    | some n => cs.take n
    | none => cs
  return String.ofList (l.pad .left cs)

/-! ## Laying out numbers -/

/-- Puts a separator between groups of `size` digits, which are given from the last to the first. -/
def groupReversed (separator : Char) (size : Nat) : Nat → List Char → List Char
  | _, [] => []
  | count, c :: cs =>
    if count = size then separator :: c :: groupReversed separator size 1 cs
    else c :: groupReversed separator size (count + 1) cs

/-- Groups digits, after as many zeros as it takes to reach `width` characters. -/
def groupDigits (separator : Char) (size width : Nat) (digits : List Char) : List Char :=
  let grouped := fun zeros =>
    (groupReversed separator size 0 (digits.reverse ++ List.replicate zeros '0')).reverse
  let needed := (List.range (width + 1)).find? fun zeros => width ≤ (grouped zeros).length
  grouped (needed.getD 0)

/--
Puts a number together from its sign, the mark of its notation, its digits before the point and what
follows them.
-/
def Layout.number (l : Layout) (negative : Bool) (mark digits rest : List Char) (groupSize : Nat) :
    List Char :=
  let sign := if negative then ['-'] else
    match l.sign with
    | some '+' => ['+']
    | some ' ' => [' ']
    | _ => []
  let lead := sign ++ mark
  let zeroFilled := l.fill = '0' && l.alignment = some .afterSign
  let room := if zeroFilled then l.width.getD 0 - (lead.length + rest.length) else 0
  let digits := match l.grouping with
    | some separator => if digits.isEmpty then digits else groupDigits separator groupSize room digits
    | none => digits
  if l.alignment = some .afterSign then
    let missing := l.width.getD 0 - (lead.length + digits.length + rest.length)
    lead ++ List.replicate missing l.fill ++ digits ++ rest
  else l.pad .right (lead ++ digits ++ rest)

/-- Digits of a number in a notation, with the mark of that notation. -/
def inNotation (code : Char) (n : Nat) : List Char × List Char :=
  match code with
  | 'b' => (['0', 'b'], Nat.toDigits 2 n)
  | 'o' => (['0', 'o'], Nat.toDigits 8 n)
  | 'x' => (['0', 'x'], Nat.toDigits 16 n)
  | 'X' => (['0', 'X'], (Nat.toDigits 16 n).map Char.toUpper)
  | _ => ([], Nat.toDigits 10 n)

/-- The fraction that a positive finite double is equal to. -/
def exactFraction (x : Float) : Nat × Nat :=
  (Dyadic.ofBits (x.toBits.toNat % signBit)).fraction

/-- Digits before and after the point of a fraction that is rounded to `places` decimals. -/
def fixedDigits (num den places : Nat) : List Char × List Char :=
  let digits := Nat.toDigits 10 (roundedQuotient (num * tenTo places) den)
  let digits := List.replicate (places + 1 - digits.length) '0' ++ digits
  (digits.take (digits.length - places), digits.drop (digits.length - places))

/-- A fraction rounded to `count` digits, and the exponent of the first one. -/
def roundedDigits (num den count : Nat) : List Char × Int :=
  if num = 0 then (List.replicate count '0', 0)
  else
    let digitsAt := fun (exponent : Int) =>
      -- the digits down to those of `10 ^ (exponent + 1 - count)`
      let (up, down) := powerOfTen (exponent + 1 - count)
      Nat.toDigits 10 (roundedQuotient (num * down) (den * up))
    let guess : Int :=
      if den ≤ num then digitCount (num / den) - 1 else -(digitCount (den / num) : Int)
    let digits := digitsAt guess
    if digits.length > count then
      let next := digitsAt (guess + 1)
      (if next.length < count then digits.take count else next, guess + 1)
    else (digits, guess)

/-- A point and digits; no digits need no point unless the layout is alternate. -/
def Layout.pointed (l : Layout) (digits : List Char) : List Char :=
  if digits.isEmpty && !l.alternate then [] else '.' :: digits

def dropZeros (digits : List Char) : List Char :=
  (digits.reverse.dropWhile (· = '0')).reverse

def exponentText (mark : Char) (exponent : Int) : List Char :=
  mark :: (if exponent < 0 then '-' else '+') :: twoDigits exponent.natAbs

/--
The digits before the point and what follows them, in general notation with `count` digits: an
exponent is written if it is less than -4 or at least `limit`.
-/
def Layout.general (l : Layout) (num den count : Nat) (limit : Int) (mark : Char)
    (pointZero : Bool) : List Char × List Char :=
  let (digits, exponent) := roundedDigits num den count
  let trimmed := fun (cs : List Char) => if l.alternate then cs else dropZeros cs
  if exponent < -4 || limit ≤ exponent then
    (digits.take 1, l.pointed (trimmed (digits.drop 1)) ++ exponentText mark exponent)
  else if exponent < 0 then
    let zeros := List.replicate (-exponent - 1).toNat '0'
    (['0'], l.pointed (trimmed (zeros ++ digits)))
  else
    let whole := digits.take (exponent.toNat + 1)
    let fraction := trimmed (digits.drop (exponent.toNat + 1))
    (whole, if fraction.isEmpty && pointZero then ['.', '0'] else l.pointed fraction)

/--
The digits before the point of the shortest text of a positive double, and what follows them; an
alternate layout has a point in any case.
-/
def Layout.shortestParts (l : Layout) (x : Float) : List Char × List Char :=
  let text := (floatText x).toList
  let rest := text.dropWhile Char.isDigit
  (text.takeWhile Char.isDigit,
    if l.alternate && rest.head? ≠ some '.' then '.' :: rest else rest)

def Layout.float (l : Layout) (typeName : String) (x : Float) : Except LayoutError String := do
  let code := l.code
  let known := ['e', 'E', 'f', 'F', 'g', 'G', 'n', '%']
  if code.isSome && !known.contains (code.getD ' ') then
    throw (.unknownCode (code.getD ' ') typeName)
  if l.precision.getD 0 > maxPrecision then throw .precisionTooBig
  l.checkWidth
  let x := if code = some '%' then x * 100 else x
  let capital := code = some 'E' || code = some 'F' || code = some 'G'
  let percent := if code = some '%' then ['%'] else []
  let negative := !x.isNaN && x.toBits.toNat ≥ signBit
  if x.isNaN || x.isInf then
    let name := if x.isNaN then ['n', 'a', 'n'] else ['i', 'n', 'f']
    let name := if capital then name.map Char.toUpper else name
    return String.ofList (l.number negative [] [] (name ++ percent) 3)
  let (num, den) := exactFraction x
  let places := l.precision.getD 6
  let (whole, rest) := match code with
    | none =>
      match l.precision with
      | none => l.shortestParts x.abs
      | some p => l.general num den (max p 1) ((max p 1 : Nat) - 1 : Int) 'e' true
    | some 'e' | some 'E' =>
      let (digits, exponent) := roundedDigits num den (places + 1)
      (digits.take 1, l.pointed (digits.drop 1) ++
        exponentText (if capital then 'E' else 'e') exponent)
    | some 'f' | some 'F' | some '%' =>
      let (whole, fraction) := fixedDigits num den places
      (whole, l.pointed fraction)
    | _ => l.general num den (max places 1) (max places 1) (if capital then 'E' else 'e') false
  let isZero := (whole ++ rest.takeWhile fun c => c ≠ 'e' && c ≠ 'E').all fun c =>
    c = '0' || c = '.'
  let negative := negative && !(l.coerceZero && isZero)
  return String.ofList (l.number negative [] whole (rest ++ percent) 3)

def Layout.integer (l : Layout) (typeName : String) (n : Int) : Except LayoutError String := do
  let code := l.code.getD 'd'
  if ['e', 'E', 'f', 'F', 'g', 'G', '%'].contains code then
    let x := Decimal.toFloat ⟨n.natAbs, 0⟩
    if x.isInf then throw .tooLargeForFloat
    l.float typeName (if n < 0 then -x else x)
  else if !(['b', 'c', 'd', 'o', 'x', 'X', 'n'].contains code) then throw (.unknownCode code typeName)
  else
    if l.precision.isSome then throw (.notForInteger "Precision")
    if l.coerceZero then throw (.notForInteger "Negative zero coercion (z)")
    if code = 'c' then
      if l.sign.isSome then throw (.notForCharacter "Sign")
      if l.alternate then throw (.notForCharacter "Alternate form (#)")
      if n < -(signBit : Int) || n > maxNumber then throw .tooLargeForCharacter
      if n < 0 || n > 0x10FFFF then throw .noCharacter
      l.checkWidth
      return String.ofList (l.number false [] [] [Char.ofNat n.toNat] 3)
    l.checkWidth
    let (mark, digits) := inNotation code n.natAbs
    let size := if mark.isEmpty then 3 else 4
    return String.ofList (l.number (n < 0) (if l.alternate then mark else []) digits [] size)

/-- Lays out a value; without a layout it has its own text. -/
def layOut (spec : String) (v : Value) : Except (Fault ⊕ LayoutError) String :=
  if spec.isEmpty then v.text.mapError .inl
  else
    match v with
    | .str s => (layText spec s).mapError .inr
    | .int n =>
      ((Layout.ofText spec v.typeName true (some 'd')).bind fun l => l.integer v.typeName n).mapError
        .inr
    | .bool b =>
      ((Layout.ofText spec v.typeName true (some 'd')).bind fun l =>
        l.integer v.typeName (if b then 1 else 0)).mapError .inr
    | .float x =>
      ((Layout.ofText spec v.typeName true none).bind fun l => l.float v.typeName x).mapError .inr
    | v => .error (.inr (.unsupported v.typeName))

end Stencil.Message
