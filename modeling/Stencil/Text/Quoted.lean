import Stencil.Text.Printable

/-!
# Quoted text

Text between quotes with the characters that cannot be shown escaped. Single quotes are used unless
the text has a single quote and no double one.
-/

namespace Stencil.Text

def hexDigit (n : Nat) : Char :=
  if n < 10 then Char.ofNat (0x30 + n) else Char.ofNat (0x57 + n)

def hexDigits : Nat → Nat → List Char
  | 0, _ => []
  | width + 1, n => hexDigits width (n / 16) ++ [hexDigit (n % 16)]

/-- The escape of a code point: two, four or eight hexadecimal digits. -/
def codeEscape (n : Nat) : List Char :=
  if n < 0x100 then '\\' :: 'x' :: hexDigits 2 n
  else if n < 0x10000 then '\\' :: 'u' :: hexDigits 4 n
  else '\\' :: 'U' :: hexDigits 8 n

/-- A character between quotes, where `shown` tells which characters need no escape. -/
def escapeWith (shown : Char → Bool) (quote c : Char) : List Char :=
  if c = quote || c = '\\' then ['\\', c]
  else if c = '\n' then ['\\', 'n']
  else if c = '\r' then ['\\', 'r']
  else if c = '\t' then ['\\', 't']
  else if shown c then [c]
  else codeEscape c.toNat

def quoteFor (cs : List Char) : Char :=
  if cs.contains '\x27' && !cs.contains '"' then '"' else '\x27'

/-- A text in quotes, where `shown` tells which characters need no escape. -/
def quotedWith (shown : Char → Bool) (text : String) : String :=
  let cs := text.toList
  let quote := quoteFor cs
  String.ofList (quote :: cs.flatMap (escapeWith shown quote) ++ [quote])

/-- A text in quotes; unprintable characters are escaped. -/
def quoted (text : String) : String :=
  quotedWith isPrintable text

def asciiEscaped (text : String) : String :=
  String.ofList (text.toList.flatMap fun c => if c.toNat < 0x80 then [c] else codeEscape c.toNat)

/-- Bytes in quotes after the letter b; all but printable ASCII is escaped. -/
def quotedBytes (bytes : List UInt8) : String :=
  let cs := bytes.map fun b => Char.ofNat b.toNat
  let quote := quoteFor cs
  String.ofList ('b' :: quote ::
    cs.flatMap (escapeWith (fun c => 0x20 ≤ c.toNat && c.toNat < 0x7F) quote) ++ [quote])

end Stencil.Text
