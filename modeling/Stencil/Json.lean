import Stencil.Numeral.Spelling
import Stencil.Value

/-!
# JSON

Reads the text of a JSON value. Members of an object keep their order, and a repeated name keeps its
first place with its last value. Integers and floating point numbers are told apart by their
spelling, and the numbers that are not finite have names. An error tells where the text stops being
JSON.

A string may be written with half of a surrogate pair. It is no string of characters then, and such a
text is refused here (`Error.unpaired`); nothing is said about what is rendered with it.
-/

namespace Stencil.Json

open Numeral

/-- What is wrong with a text. -/
inductive Reason where
  | expectingValue
  | expectingName
  | expectingColon
  | expectingComma
  | unterminatedString
  | controlCharacter
  | badEscape
  | badUnicodeEscape
  | extraData
  | byteOrderMark
  deriving DecidableEq, Repr

def Reason.message : Reason → String
  | expectingValue => "Expecting value"
  | expectingName => "Expecting property name enclosed in double quotes"
  | expectingColon => "Expecting ':' delimiter"
  | expectingComma => "Expecting ',' delimiter"
  | unterminatedString => "Unterminated string starting at"
  | controlCharacter => "Invalid control character at"
  | badEscape => "Invalid \\escape"
  | badUnicodeEscape => "Invalid \\uXXXX escape"
  | extraData => "Extra data"
  | byteOrderMark => "Unexpected UTF-8 BOM (decode using utf-8-sig)"

/-- Why a text cannot be read. -/
inductive Error where
  /-- The text is not JSON from the given position on. -/
  | malformed (reason : Reason) (position : Nat)
  /-- An integer has too many digits. -/
  | integerTooLong (digits : Nat)
  /-- The surrogate that is written at the given position has no partner. -/
  | unpaired (position : Nat)
  deriving DecidableEq, Repr

/-- The line and the column of a position, both counted from one. -/
def lineAndColumn (text : List Char) (position : Nat) : Nat × Nat :=
  let before := text.take position
  (before.count '\n' + 1, (before.reverse.takeWhile (· ≠ '\n')).length + 1)

/-- A position in a text, in words. -/
def placeText (text : String) (position : Nat) : String :=
  let (line, column) := lineAndColumn text.toList position
  s!"line {line} column {column} (char {position})"

def Error.message (text : String) : Error → String
  | malformed reason position => reason.message ++ ": " ++ placeText text position
  | integerTooLong digits => tooLongMessage (some digits)
  | unpaired position => "Surrogate without a partner: " ++ placeText text position

/-- The rest of a text, with the number of characters before it. -/
structure Place where
  position : Nat
  rest : List Char

namespace Place

/-- The place after `count` characters, where `rest` is left. -/
def past (p : Place) (count : Nat) (rest : List Char) : Place :=
  ⟨p.position + count, rest⟩

def error {α : Type} (p : Place) (reason : Reason) : Except Error α :=
  .error (.malformed reason p.position)

/-- The place after the blanks. -/
def skipBlanks (p : Place) : Place :=
  let blank := fun c => c = ' ' || c = '\t' || c = '\n' || c = '\r'
  p.past (p.rest.takeWhile blank).length (p.rest.dropWhile blank)

end Place

def hexValue? (c : Char) : Option Nat :=
  if isAsciiDigit c then some (c.toNat - '0'.toNat)
  else if 'a' ≤ c && c ≤ 'f' then some (c.toNat - 'a'.toNat + 10)
  else if 'A' ≤ c && c ≤ 'F' then some (c.toNat - 'A'.toNat + 10)
  else none

def hexValue4? (a b c d : Char) : Option Nat := do
  let a ← hexValue? a
  let b ← hexValue? b
  let c ← hexValue? c
  let d ← hexValue? d
  return ((a * 16 + b) * 16 + c) * 16 + d

/-- Tells whether a code unit is the first of a surrogate pair. -/
def isHighSurrogate (n : Nat) : Bool := 0xD800 ≤ n && n < 0xDC00

/-- Tells whether a code unit is the second of a surrogate pair. -/
def isLowSurrogate (n : Nat) : Bool := 0xDC00 ≤ n && n < 0xE000

def pairChar (high low : Nat) : Char :=
  Char.ofNat (0x10000 + (high - 0xD800) * 0x400 + (low - 0xDC00))

def simpleEscape? : Char → Option Char
  | '"' => some '"'
  | '\\' => some '\\'
  | '/' => some '/'
  | 'b' => some '\x08'
  | 'f' => some '\x0c'
  | 'n' => some '\n'
  | 'r' => some '\r'
  | 't' => some '\t'
  | _ => none

def prepend (c : Char) (r : List Char × Place) : List Char × Place :=
  (c :: r.1, r.2)

/--
The characters up to the closing quote and the place after it. `start` is the position of the
opening quote and `pos` that of the text.
-/
def string (start pos : Nat) : List Char → Except Error (List Char × Place)
  | [] => .error (.malformed .unterminatedString start)
  | '"' :: rest => .ok ([], ⟨pos + 1, rest⟩)
  | ['\\'] => .error (.malformed .unterminatedString start)
  | '\\' :: 'u' :: a :: b :: c :: d :: e :: rest =>
    match hexValue4? a b c d with
    | none => .error (.malformed .badUnicodeEscape (pos + 1))
    | some high =>
      let single := fun (_ : Unit) =>
        if isHighSurrogate high || isLowSurrogate high then .error (.unpaired pos)
        else (string start (pos + 6) (e :: rest)).map (prepend (Char.ofNat high))
      match e, rest with
      | '\\', 'u' :: a :: b :: c :: d :: f :: more =>
        if isHighSurrogate high then
          match hexValue4? a b c d with
          | none => .error (.malformed .badUnicodeEscape (pos + 7))
          | some low =>
            if isLowSurrogate low then
              (string start (pos + 12) (f :: more)).map (prepend (pairChar high low))
            else single ()
        else single ()
      | _, _ => single ()
  | '\\' :: 'u' :: _ => .error (.malformed .badUnicodeEscape (pos + 1))
  | '\\' :: c :: rest =>
    match simpleEscape? c with
    | none => .error (.malformed .badEscape pos)
    | some c => (string start (pos + 2) rest).map (prepend c)
  | c :: rest =>
    if c.toNat < 0x20 then .error (.malformed .controlCharacter pos)
    else (string start (pos + 1) rest).map (prepend c)

/-- The digits at the start of a text, with the rest. -/
def digits (cs : List Char) : List Nat × List Char :=
  ((cs.takeWhile isAsciiDigit).map fun c => c.toNat - '0'.toNat, cs.dropWhile isAsciiDigit)

/-- The digits before the point: a single zero, or digits that do not start with one. -/
def wholePart? : List Char → Option (List Nat × List Char)
  | '0' :: rest => some ([0], rest)
  | cs =>
    let r := digits cs
    if r.1.isEmpty then none else some r

/-- The digits after the point, if there are any. -/
def fractionPart? : List Char → Option (List Nat) × List Char
  | '.' :: rest =>
    let r := digits rest
    if r.1.isEmpty then (none, '.' :: rest) else (some r.1, r.2)
  | cs => (none, cs)

/-- The exponent, if it has digits. -/
def exponentPart? (cs : List Char) : Option Int × List Char :=
  match cs with
  | [] => (none, [])
  | c :: rest =>
    if c = 'e' || c = 'E' then
      let (negative, afterSign) := Spelling.splitSign rest
      let r := digits afterSign
      if r.1.isEmpty then (none, cs)
      else (some (if negative then -(ofDigits r.1 : Int) else ofDigits r.1), r.2)
    else (none, cs)

/-- A number and the place after it, if a number stands here. -/
def number? (p : Place) : Option (Except Error (Value × Place)) := do
  let (negative, cs) := splitMinus p.rest
  let (whole, cs) ← wholePart? cs
  let (fraction, cs) := fractionPart? cs
  let (exponent, cs) := exponentPart? cs
  let after := p.past (p.rest.length - cs.length) cs
  if fraction.isNone && exponent.isNone then
    match readInteger negative whole with
    | .ok n => return .ok (.int n, after)
    | .error count => return .error (.integerTooLong count)
  else
    let spelling : Spelling :=
      { negative, whole, point := fraction.isSome, fraction := fraction.getD [], exponent }
    return .ok (.float spelling.toFloat, after)

def words : List (String × Value) :=
  [("null", .none), ("true", .bool true), ("false", .bool false), ("NaN", .float (0.0 / 0.0)),
    ("Infinity", .float (1.0 / 0.0)), ("-Infinity", .float (-1.0 / 0.0))]

/-- A word and the place after it, if a word stands here. -/
def word? (p : Place) : Option (Value × Place) :=
  words.findSome? fun (w, v) =>
    let cs := w.toList
    if cs.isPrefixOf p.rest then some (v, p.past cs.length (p.rest.drop cs.length)) else none

mutual

def value : Nat → Place → Except Error (Value × Place)
  | 0, p => p.error .expectingValue
  | fuel + 1, p =>
    match p.rest with
    | '"' :: rest => do
      let (cs, after) ← string p.position (p.position + 1) rest
      return (.str (String.ofList cs), after)
    | '[' :: rest =>
      let p := (p.past 1 rest).skipBlanks
      match p.rest with
      | ']' :: rest => .ok (.list [], p.past 1 rest)
      | _ => do
        let (items, after) ← elements fuel p
        return (.list items, after)
    | '\x7b' :: rest =>
      let p := (p.past 1 rest).skipBlanks
      match p.rest with
      | '\x7d' :: rest => .ok (.dict [], p.past 1 rest)
      | _ => do
        let (entries, after) ← members fuel p
        return (.dict (Entries.ofList entries), after)
    | _ =>
      match word? p with
      | some found => .ok found
      | none =>
        match number? p with
        | some found => found
        | none => p.error .expectingValue

/-- The elements of an array up to its closing bracket, and the place after that. -/
def elements : Nat → Place → Except Error (List Value × Place)
  | 0, p => p.error .expectingValue
  | fuel + 1, p => do
    let (v, after) ← value fuel p
    let p := after.skipBlanks
    match p.rest with
    | ']' :: rest => return ([v], p.past 1 rest)
    | ',' :: rest =>
      let (vs, after) ← elements fuel (p.past 1 rest).skipBlanks
      return (v :: vs, after)
    | _ => p.error .expectingComma

/-- The members of an object up to its closing brace, and the place after that. -/
def members : Nat → Place → Except Error (List (String × Value) × Place)
  | 0, p => p.error .expectingValue
  | fuel + 1, p => do
    match p.rest with
    | '"' :: rest =>
      let (name, after) ← string p.position (p.position + 1) rest
      let p := after.skipBlanks
      match p.rest with
      | ':' :: rest =>
        let (v, after) ← value fuel (p.past 1 rest).skipBlanks
        let p := after.skipBlanks
        let entry := (String.ofList name, v)
        match p.rest with
        | '\x7d' :: rest => return ([entry], p.past 1 rest)
        | ',' :: rest =>
          let (entries, after) ← members fuel (p.past 1 rest).skipBlanks
          return (entry :: entries, after)
        | _ => p.error .expectingComma
      | _ => p.error .expectingColon
    | _ => p.error .expectingName

end

def read (text : String) : Except Error Value :=
  let cs := text.toList
  if cs.head? = some '\ufeff' then .error (.malformed .byteOrderMark 0)
  else do
    let (v, after) ← value (2 * cs.length + 2) (Place.skipBlanks ⟨0, cs⟩)
    let p := after.skipBlanks
    if p.rest.isEmpty then return v else p.error .extraData

end Stencil.Json
