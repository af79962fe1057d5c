import Stencil.Node
import Stencil.Numeral.Spelling
import Stencil.Text.Blank

/-!
# Parameters

The text of a parameter, without the blanks around it, is a string in double quotes, a truth value,
a number, or else a key of the context. Numbers may be written with the digits of any script.
-/

namespace Stencil

open Text

/-- The value of a numeral: an integer of at most 4300 digits, or a floating point number. -/
def Numeral.Spelling.value (s : Numeral.Spelling) : Except Nat Value :=
  if s.isInteger then (Numeral.readInteger s.negative s.whole).map .int
  else .ok (.float s.toFloat)

/-- The number that a text stands for, if it is a numeral; an error gives the excessive length. -/
def readNumber? (text : String) : Except Nat (Option Value) :=
  match Numeral.Spelling.read? text.toList with
  | none => .ok none
  | some s => s.value.map some

/-- Why a text is no parameter. -/
inductive Param.Invalid where
  /-- There is nothing but blanks. -/
  | empty
  /-- A string lacks its second quote. -/
  | unterminated (value : String)
  /-- An integer has too many digits. -/
  | integerTooLong (digits : Nat)
  deriving DecidableEq, Repr

def Param.Invalid.message : Param.Invalid → String
  | empty => "Missing filter parameter value"
  | unterminated value => s!"Unterminated string parameter {value}"
  | integerTooLong digits => Numeral.tooLongMessage (some digits)

/-- The text between the quotes of a text that starts with one, if another one ends it. -/
def unquote? (rest : List Char) : Option (List Char) :=
  match rest.getLast? with
  | some '"' => some rest.dropLast
  | _ => none

namespace Param

/-- Reads a parameter from a text without blanks around it. -/
def ofStripped : List Char → Except Invalid Param
  | [] => .error .empty
  | '"' :: rest =>
    match unquote? rest with
    | some inside => .ok (.literal (.str (String.ofList inside)))
    | none => .error (.unterminated (String.ofList ('"' :: rest)))
  | cs =>
    let text := String.ofList cs
    if text = "true" then .ok (.literal (.bool true))
    else if text = "false" then .ok (.literal (.bool false))
    else
      match readNumber? text with
      | .error digits => .error (.integerTooLong digits)
      | .ok (some v) => .ok (.literal v)
      | .ok none => .ok (.reference text)

def ofText (text : String) : Except Invalid Param :=
  ofStripped (strip text.toList)

end Param

end Stencil
