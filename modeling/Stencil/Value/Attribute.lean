import Stencil.Value

/-!
# Reading attributes

One step of a path: a key of a mapping, an index of a sequence, or an attribute. Which of these it is
depends on what the tests of the type find. Names that start with an underscore are private and never
read as attributes. A failure to read an attribute is accounted for, one of a test, a mapping or a
sequence is not.
-/

namespace Stencil

open Numeral

/-- The index that a key stands for: a minus sign, perhaps, and ASCII digits. -/
def readIndex? (key : String) : Except Fault (Option Int) :=
  let (negative, digits) := splitMinus key.toList
  if digits.isEmpty || !digits.all isAsciiDigit then .ok none
  else
    match Numeral.readInteger negative (digits.map fun c => c.toNat - '0'.toNat) with
    | .ok n => .ok (some n)
    | .error count => .error (.integerTooLongToRead count)

/-- The item at an index; negative indices count from the end. -/
def itemAt? (items : List Value) (index : Int) : Option Value :=
  if index < 0 then
    if -index ≤ items.length then items[(items.length + index).toNat]? else none
  else items[index.toNat]?

/-- What reading an attribute gives; that there is none, it may say itself by a fault. -/
def readAttribute? {α : Type} (attributes : Entries (Except Fault α)) (key : String) :
    Except Fault (Option α) :=
  match attributes.get? key with
  | none => .ok none
  | some (.ok v) => .ok (some v)
  | some (.error cause) => if cause.isMissing then .ok none else .error cause

namespace Value

/--
The attributes of a value, private ones included. The methods of texts, bytes, numbers, lists and tuples
are left out: their texts are addresses in memory. A value with such a method is an object of the same
shape.
-/
def attributes : Value → List (String × Except Fault Value)
  | object o => o.attributes
  | int n => [("real", .ok (.int n)), ("imag", .ok (.int 0)), ("numerator", .ok (.int n)),
      ("denominator", .ok (.int 1))]
  | bool b =>
    let n := if b then 1 else 0
    [("real", .ok (.int n)), ("imag", .ok (.int 0)), ("numerator", .ok (.int n)),
      ("denominator", .ok (.int 1))]
  | float x => [("real", .ok (.float x)), ("imag", .ok (.float 0.0))]
  | _ => []

/-- Reads a public attribute; a value without it has none to give. -/
def attribute? (owner : Value) (key : String) : Except Failure (Option Value) :=
  if key.startsWith "_" then .ok Option.none
  else (readAttribute? owner.attributes key).mapError (.readFailed key)

/-- Reads an item of a sequence, or an attribute if the key is no index. -/
def sequenceItem? (owner : Value) (item : Int → Except Fault (Option Value)) (key : String) :
    Except Failure (Option Value) :=
  match readIndex? key with
  | .error cause => .error (.fault cause)
  | .ok (some index) => (item index).mapError .fault
  | .ok Option.none => owner.attribute? key

/-- Reads one step of a path; `none` means that there is nothing to read. -/
def read? (owner : Value) (key : String) : Except Failure (Option Value) :=
  match owner with
  | none => .ok Option.none
  | dict entries => .ok (Entries.get? entries key)
  | list items => owner.sequenceItem? (fun index => .ok (itemAt? items index)) key
  | tuple items => owner.sequenceItem? (fun index => .ok (itemAt? items index)) key
  | object o =>
    match o.shape with
    | .error cause => .error (.fault cause)
    | .ok .plain => owner.attribute? key
    | .ok (.mapping lookup) => (lookup key).mapError .fault
    | .ok (.sequence item) => owner.sequenceItem? item key
  | _ => owner.attribute? key

/-- Walks a path; a step that is missing or gives `none` ends the walk with nothing. -/
def resolve? (value : Value) : List String → Except Failure (Option Value)
  | [] => .ok (some value)
  | key :: path => do
    match ← value.read? key with
    | Option.none => return Option.none
    | some .none => return Option.none
    | some v => v.resolve? path

end Value

end Stencil
