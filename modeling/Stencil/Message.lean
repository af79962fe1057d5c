import Stencil.Log
import Stencil.Message.Layout
import Stencil.Value.Attribute

/-!
# Messages with fields

A log message that comes with arguments has fields in braces. A field names an argument by its
place or its name, may go on to an attribute or an item, and may ask for the quoted text and for a
layout, which may hold fields itself. Doubled braces stand for themselves.
-/

namespace Stencil.Message

open Numeral

/-- Why a message cannot be put together. -/
inductive Error where
  /-- A brace without its partner. -/
  | single (brace : Char)
  | unclosedField
  | braceInField
  | missingConversion
  | afterConversion
  | unknownConversion (c : Char)
  | unclosedLayout
  | tooDeep
  | automaticAfterManual
  | manualAfterAutomatic
  | emptyAttribute
  | missingBracket
  | afterBracket
  | noArgument (index : Nat)
  | noName (name : String)
  | noAttribute (typeName name : String)
  | notSubscriptable (typeName : String)
  /-- An item of a sequence is asked for by a name. -/
  | namedItem (typeName : String)
  | outOfRange (typeName : String)
  /-- A mapping lacks an item; a number is no text. -/
  | noItem (key : String) (isNumber : Bool)
  | fault (cause : Fault)
  | layout (cause : LayoutError)
  /-- Arguments are given with a message that is no text. -/
  | notText (typeName : String)
  | noMessage (level : Level)
  deriving DecidableEq, Repr

def sequenceName (typeName : String) : String :=
  if typeName = "str" then "string"
  else if typeName = "bytes" then "byte" else typeName

def shownConversion (c : Char) : String :=
  if 32 < c.toNat && c.toNat < 127 then String.ofList [c] else escapedCode c

def Error.message : Error → String
  | single brace => "Single '" ++ String.ofList [brace] ++ "' encountered in format string"
  | unclosedField => "expected '\x7d' before end of string"
  | braceInField => "unexpected '\x7b' in field name"
  | missingConversion => "end of string while looking for conversion specifier"
  | afterConversion => "expected ':' after conversion specifier"
  | unknownConversion c => "Unknown conversion specifier " ++ shownConversion c
  | unclosedLayout => "unmatched '\x7b' in format spec"
  | tooDeep => "Max string recursion exceeded"
  | automaticAfterManual =>
    "cannot switch from manual field specification to automatic field numbering"
  | manualAfterAutomatic =>
    "cannot switch from automatic field numbering to manual field specification"
  | emptyAttribute => "Empty attribute in format string"
  | missingBracket => "Missing ']' in format string"
  | afterBracket => "Only '.' or '[' may follow ']' in format field specifier"
  | noArgument index => s!"Replacement index {index} out of range for positional args tuple"
  | noName name => Text.quoted name
  | noAttribute typeName name => s!"'{typeName}' object has no attribute '{name}'"
  | notSubscriptable typeName => s!"'{typeName}' object is not subscriptable"
  | namedItem typeName =>
    if typeName = "str" then "string indices must be integers, not 'str'"
    else sequenceName typeName ++ " indices must be integers or slices, not str"
  | outOfRange typeName =>
    if typeName = "bytes" then "index out of range"
    else sequenceName typeName ++ " index out of range"
  | noItem key isNumber => if isNumber then key else Text.quoted key
  | fault cause => cause.message
  | layout cause => cause.message
  | notText typeName => s!"'{typeName}' object has no attribute 'format'"
  | noMessage level =>
    let name := match level with
      | .debug => "debug"
      | .error => "error"
    s!"Logger.{name}() missing 1 required positional argument: '_Logger__message'"

/-- The arguments that come with a message. -/
structure Given where
  args : List Value
  named : Entries Value

/-- How the fields without a name have been numbered so far. -/
inductive Numbering where
  | unknown
  | automatic (next : Nat)
  | manual
  deriving DecidableEq, Repr

/-! ## Fields -/

/-- A number, if a text is one. Digits at its start that are too many are an error in any case. -/
def indexOf? (cs : List Char) : Except Error (Option Nat) :=
  match numberAt cs with
  | .error cause => .error (.layout cause)
  | .ok (found, []) => .ok found
  | .ok _ => .ok none

def itemAt (v : Value) (index : Nat) : Except Error Value :=
  let ofList := fun (items : List Value) =>
    match items[index]? with
    | some v => Except.ok v
    | none => .error (.outOfRange v.typeName)
  match v with
  | .list items => ofList items
  | .tuple items => ofList items
  | .str s => ofList (s.toList.map fun c => .str (String.ofList [c]))
  | .bytes bs => ofList (bs.map fun b => .int b.toNat)
  | .dict _ => .error (.noItem (String.ofList (Nat.toDigits 10 index)) true)
  | v => .error (.notSubscriptable v.typeName)

def itemNamed (v : Value) (name : String) : Except Error Value :=
  match v with
  | .dict entries =>
    match Entries.get? entries name with
    | some v => .ok v
    | none => .error (.noItem name false)
  | .list _ | .tuple _ | .str _ | .bytes _ => .error (.namedItem v.typeName)
  | v => .error (.notSubscriptable v.typeName)

def attributeOf (v : Value) (name : String) : Except Error Value :=
  match Entries.get? v.attributes name with
  | some (.ok v) => .ok v
  | some (.error cause) => .error (.fault cause)
  | none => .error (.noAttribute v.typeName name)

/-- Goes on from a value to attributes and items; `fuel` is at least the length of the text. -/
def follow : Nat → Value → List Char → Except Error Value
  | _, v, [] => .ok v
  | 0, v, _ => .ok v
  | fuel + 1, v, '.' :: cs =>
    let name := cs.takeWhile fun c => c ≠ '.' && c ≠ '['
    if name.isEmpty then .error .emptyAttribute
    else do
      let v ← attributeOf v (String.ofList name)
      follow fuel v (cs.drop name.length)
  | fuel + 1, v, '[' :: cs =>
    let name := cs.takeWhile (· ≠ ']')
    match cs.drop name.length with
    | [] => .error .missingBracket
    | _ :: rest => do
      let index ← indexOf? name
      if name.isEmpty then throw .emptyAttribute
      let v ← match index with
        | some i => itemAt v i
        | none => itemNamed v (String.ofList name)
      follow fuel v rest
  | _, _, _ => .error .afterBracket

/-- The value that a field names, and the numbering after it. -/
def lookUp (given : Given) (numbering : Numbering) (field : List Char) :
    Except Error (Value × Numbering) := do
  let first := field.takeWhile fun c => c ≠ '.' && c ≠ '['
  let rest := field.drop first.length
  let index ← indexOf? first
  let positional := fun (i : Nat) (numbering : Numbering) =>
    match given.args[i]? with
    | some v => Except.ok (v, numbering)
    | none => .error (.noArgument i)
  let (v, numbering) ←
    if first.isEmpty then
      match numbering with
      | .manual => throw .automaticAfterManual
      | .unknown => positional 0 (.automatic 1)
      | .automatic i => positional i (.automatic (i + 1))
    else
      match index, numbering with
      | some _, .automatic _ => throw .manualAfterAutomatic
      | some i, _ => positional i .manual
      | none, _ =>
        match given.named.get? (String.ofList first) with
        | some v => pure (v, numbering)
        | none => throw (.noName (String.ofList first))
  let v ← follow rest.length v rest
  return (v, numbering)

/-! ## Putting a message together -/

/-- A field: what it names, the conversion that it asks for, and its layout. -/
structure Field where
  name : List Char
  conversion : Option Char := none
  layout : List Char := []
  deriving DecidableEq, Repr

/-- The text of a layout up to the brace that closes its field, and the rest; `depth` counts braces. -/
def layoutAt (depth : Nat) : List Char → Except Error (List Char × List Char)
  | [] => .error .unclosedLayout
  | c :: cs =>
    if c = '\x7b' then (layoutAt (depth + 1) cs).map fun r => (c :: r.1, r.2)
    else if c = '\x7d' then
      match depth with
      | 0 => .ok ([], cs)
      | depth + 1 => (layoutAt depth cs).map fun r => (c :: r.1, r.2)
    else (layoutAt depth cs).map fun r => (c :: r.1, r.2)

def conversionAt (name : List Char) : List Char → Except Error (Field × List Char)
  | [] => .error .missingConversion
  | [_] => .error .unclosedLayout
  | c :: '\x7d' :: rest => .ok ({ name, conversion := some c }, rest)
  | c :: ':' :: rest =>
    (layoutAt 0 rest).map fun r => ({ name, conversion := some c, layout := r.1 }, r.2)
  | _ => .error .afterConversion

/--
The field at the start of a text, with the rest. `name` is read already, in reverse, and brackets
are passed over while `inside` one.
-/
def fieldAt (name : List Char) (inside : Bool) : List Char → Except Error (Field × List Char)
  | [] => .error .unclosedField
  | c :: cs =>
    if inside then fieldAt (c :: name) (c ≠ ']') cs
    else if c = '\x7b' then .error .braceInField
    else if c = '[' then fieldAt (c :: name) true cs
    else if c = '\x7d' then .ok ({ name := name.reverse }, cs)
    else if c = ':' then (layoutAt 0 cs).map fun r => ({ name := name.reverse, layout := r.1 }, r.2)
    else if c = '!' then conversionAt name.reverse cs
    else fieldAt (c :: name) false cs

def convert (conversion : Option Char) (v : Value) : Except Error Value :=
  match conversion with
  | none => .ok v
  | some 's' => (v.text.mapError .fault).map .str
  | some 'r' => (v.inner.mapError .fault).map .str
  | some 'a' => (v.inner.mapError .fault).map fun s => .str (Text.asciiEscaped s)
  | some c => .error (.unknownConversion c)

/--
Puts a message together. `depth` counts how deep fields may be nested, and `fuel` is at least the
length of the text.
-/
def build (given : Given) : Nat → Nat → Numbering → List Char →
    Except Error (List Char × Numbering)
  | _, _, numbering, [] => .ok ([], numbering)
  | _, 0, numbering, _ => .ok ([], numbering)
  | depth, fuel + 1, numbering, c :: cs =>
    let literal := fun (c : Char) (rest : List Char) =>
      (build given depth fuel numbering rest).map fun r => (c :: r.1, r.2)
    if c ≠ '\x7b' && c ≠ '\x7d' then literal c cs
    else if cs.head? = some c then literal c cs.tail
    else if c = '\x7d' || cs.isEmpty then .error (.single c)
    else do
      let (field, rest) ← fieldAt [] false cs
      let (v, numbering) ← lookUp given numbering field.name
      let v ← convert field.conversion v
      let (layout, numbering) ←
        if field.layout.contains '\x7b' then
          match depth with
          | 0 => throw .tooDeep
          | depth + 1 => build given depth fuel numbering field.layout
        else pure (field.layout, numbering)
      let text ← (layOut (String.ofList layout) v).mapError fun
        | .inl cause => .fault cause
        | .inr cause => .layout cause
      let (after, numbering) ← build given depth fuel numbering rest
      return (text.toList ++ after, numbering)

def format (text : String) (given : Given) : Except Error String :=
  (build given 1 text.length .unknown text.toList).map fun r => String.ofList r.1

/-- The text of a message: as it is if it comes alone, else with its fields filled in. -/
def textOf (message : Value) (given : Given) : Except Error String :=
  if given.args.isEmpty && given.named.isEmpty then message.text.mapError .fault
  else
    match message with
    | .str text => format text given
    | v => .error (.notText v.typeName)

/-- Logs a message that is given with its arguments, unless the flags keep its level out. -/
def emit (flags : Flags) (level : Level) (args : List Value) (named : Entries Value) :
    Except Error (List LogRecord) :=
  let off := match level with
    | .debug => flags.beQuiet
    | .error => flags.noComplain
  if off then .ok []
  else
    match args with
    | [] => .error (.noMessage level)
    | message :: args => (textOf message ⟨args, named⟩).map fun text => [⟨level, text⟩]

end Stencil.Message
