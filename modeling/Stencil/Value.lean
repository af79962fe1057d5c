import Stencil.Entries
import Stencil.Fault
import Stencil.Numeral.Floating
import Stencil.Text.Quoted

/-!
# Values

What a template is rendered with: scalars, sequences, mappings, and objects. All that an object does
is given by outcomes: what the tests of its type find, what its attributes give, and its texts. A
value has three texts: the one it has on its own, the one it has inside a container, and the one a
template shows for it.
-/

namespace Stencil

open Text

/-- What an object turns out to be when its type is tested. -/
inductive Shape (α : Type) where
  /-- Neither a mapping nor a sequence. -/
  | plain
  /-- A mapping, by what looking up a key gives; `none` stands for a key that is not there. -/
  | mapping (lookup : String → Except Fault (Option α))
  /-- A sequence, by what reading an index gives; `none` stands for an index beyond the ends. -/
  | sequence (item : Int → Except Fault (Option α))

/-- An object, by the outcome of all that is done with it. -/
structure Object (α : Type) where
  typeName : String
  /-- What the tests of its type find. They may ask the object for its class, and so may fail. -/
  shape : Except Fault (Shape α) := .ok .plain
  /-- What reading each attribute gives. -/
  attributes : List (String × Except Fault α) := []
  /-- The text on its own; a test of its type that comes before counts as a part of it. -/
  text : Except Fault String
  /-- The text inside a container. -/
  inner : Except Fault String

/-- A value of the context. -/
inductive Value where
  | none
  | bool (b : Bool)
  | int (n : Int)
  | float (x : Float)
  | str (s : String)
  | bytes (bs : List UInt8)
  | list (items : List Value)
  | tuple (items : List Value)
  | dict (entries : List (String × Value))
  /-- Anything else, containers of the caller's own included. -/
  | object (o : Object Value)

instance : Inhabited Value := ⟨.none⟩

namespace Value

def typeName : Value → String
  | none => "NoneType"
  | bool _ => "bool"
  | int _ => "int"
  | float _ => "float"
  | str _ => "str"
  | bytes _ => "bytes"
  | list _ => "list"
  | tuple _ => "tuple"
  | dict _ => "dict"
  | object o => o.typeName

def integerText (n : Int) : Except Fault String :=
  match Numeral.integerText? n with
  | some text => .ok text
  | .none => .error .integerTooLongToWrite

def boolText (b : Bool) : String :=
  if b then "True" else "False"

mutual

/-- The text of a value inside a container; strings are quoted there. -/
def inner : Value → Except Fault String
  | none => .ok "None"
  | bool b => .ok (boolText b)
  | int n => integerText n
  | float x => .ok (Numeral.floatText x)
  | str s => .ok (quoted s)
  | bytes bs => .ok (quotedBytes bs)
  | list items => do
    let texts ← innerItems items
    return "[" ++ ", ".intercalate texts ++ "]"
  | tuple items => do
    match ← innerItems items with
    | [text] => return "(" ++ text ++ ",)"
    | texts => return "(" ++ ", ".intercalate texts ++ ")"
  | dict entries => do
    let texts ← innerEntries entries
    return "\x7b" ++ ", ".intercalate texts ++ "\x7d"
  | object o => o.inner

/-- The texts of the items of a sequence, up to the first that has none. -/
def innerItems : List Value → Except Fault (List String)
  | [] => .ok []
  | v :: vs => do
    let text ← inner v
    let texts ← innerItems vs
    return text :: texts

/-- The texts of the entries of a mapping, up to the first that has none. -/
def innerEntries : List (String × Value) → Except Fault (List String)
  | [] => .ok []
  | (k, v) :: es => do
    let text ← inner v
    let texts ← innerEntries es
    return (quoted k ++ ": " ++ text) :: texts

end

def text : Value → Except Fault String
  | str s => .ok s
  | object o => o.text
  | v => v.inner

/-- The text that a template shows for a value: nothing for `none`, lower case truth values. -/
def shown : Value → Except Fault String
  | str s => .ok s
  | bool b => .ok (if b then "true" else "false")
  | none => .ok ""
  | v => v.text

/-- Tells whether a value counts as true: it is neither zero, nor empty, nor `none`. -/
def truthy : Value → Bool
  | none => false
  | bool b => b
  | int n => n != 0
  | float x => x != 0
  | str s => !s.isEmpty
  | bytes bs => !bs.isEmpty
  | list items => !items.isEmpty
  | tuple items => !items.isEmpty
  | dict entries => !entries.isEmpty
  | object .. => true

end Value

end Stencil
