import Stencil.Symbols
import Stencil.Validation

/-!
# Options

What an engine is configured with: the symbols, whether errors are raised, and whether the built-in
filters are there. Options are read from named values; a later value for a name replaces an earlier
one, and all errors are reported together.
-/

namespace Stencil

open Text

/-- The options of an engine. The symbol text always holds a table of symbols. -/
structure Options where
  tokens : String
  throws : Bool
  builtins : Bool
  symbols : Symbols
  valid : Symbols.ofText tokens = .ok symbols

namespace Options

def same (a b : Options) : Bool :=
  a.tokens = b.tokens && a.throws = b.throws && a.builtins = b.builtins

def fields (o : Options) : Entries Value :=
  [("tokens", .str o.tokens), ("throws", .bool o.throws), ("builtins", .bool o.builtins)]

/-- A symbol text that is known to hold a table. -/
structure Tokens where
  text : String
  symbols : Symbols
  valid : Symbols.ofText text = .ok symbols

def Tokens.ofText (text : String) : Except FieldCause Tokens :=
  match h : Symbols.ofText text with
  | .ok symbols => .ok ⟨text, symbols, h⟩
  | .error why => .error (.refused why.message)

/--
The errors of assigning to a field: options never change, and only a private name, which starts with
an underscore, takes a value.
-/
def assignmentErrors (name : String) (value : Value) : List FieldError :=
  if name.startsWith "_" then [] else [⟨name, .frozen, value⟩]

def fieldNames : List String := ["tokens", "throws", "builtins"]

/-- Reads options from named values. Names that are no option are errors, after all others. -/
def ofFields (r : FieldReaders) (fields : Entries Value) : Except (List FieldError) Options :=
  let tokens := readField fields "tokens" (Tokens.ofText defaultTokens) fun v =>
    (r.text v).bind Tokens.ofText
  let throws := readField fields "throws" (.ok false) r.flag
  let builtins := readField fields "builtins" (.ok true) r.flag
  let extra := fields.filterMap fun (name, v) =>
    if name ∈ fieldNames then none else some ⟨name, .unknown, v⟩
  match tokens, throws, builtins, extra with
  | .ok t, .ok throws, .ok builtins, [] =>
    .ok { tokens := t.text, throws, builtins, symbols := t.symbols, valid := t.valid }
  | tokens, throws, builtins, extra =>
    .error (r.arrange ((errorOf? tokens).toList ++ (errorOf? throws).toList
      ++ (errorOf? builtins).toList ++ extra))

end Options

/-- Why named values for options cannot be read. -/
inductive ConfigError where
  /-- The options are a value of a type that holds no entries. -/
  | notIterable (typeName : String)
  /-- An entry is no pair but a single thing. -/
  | notSequence (index : Nat)
  /-- An entry has another length than two. -/
  | wrongLength (index length : Nat)
  /-- The name of an entry is of a type that cannot be a key. -/
  | unhashable (typeName : String)
  /-- The name of an entry is no text. -/
  | nameNotText
  /-- An option is given in the place of all options. -/
  | repeatedArgument (name : String)
  | invalid (errors : List FieldError)

/-- The wording of an error, with a note on each field that is not valid. -/
def ConfigError.message (note : FieldCause → String) : ConfigError → String
  | notIterable typeName => s!"'{typeName}' object is not iterable"
  | notSequence index =>
    s!"cannot convert dictionary update sequence element #{index} to a sequence"
  | wrongLength index length =>
    s!"dictionary update sequence element #{index} has length {length}; 2 is required"
  | unhashable typeName => s!"unhashable type: '{typeName}'"
  | nameNotText => "keywords must be strings"
  | repeatedArgument name => s!"configure() got multiple values for argument '{name}'"
  | invalid errors => FieldError.report note "RenderOptions" errors

namespace Value

def items? : Value → Option (List Value)
  | list items => some items
  | tuple items => some items
  | str s => some (s.toList.map fun c => .str (String.ofList [c]))
  | bytes bs => some (bs.map fun b => .int b.toNat)
  | dict entries => some (entries.map fun e => .str e.1)
  | _ => Option.none

mutual

/-- The type that keeps a value from being a key: lists and mappings, also inside tuples. -/
def unhashable? : Value → Option String
  | list _ => some "list"
  | dict _ => some "dict"
  | tuple items => unhashableItem? items
  | _ => Option.none

/-- The first type that keeps the items of a tuple from being a key. -/
def unhashableItem? : List Value → Option String
  | [] => Option.none
  | v :: vs => v.unhashable?.or (unhashableItem? vs)

end

/-- A pair of a key and a value, from the item with the given index. -/
def asPair (index : Nat) (item : Value) : Except ConfigError (Value × Value) :=
  match item.items? with
  | Option.none => .error (.notSequence index)
  | some [k, v] =>
    match k.unhashable? with
    | Option.none => .ok (k, v)
    | some typeName => .error (.unhashable typeName)
  | some items => .error (.wrongLength index items.length)

/-- The pairs of a list of items, up to the first that is none. -/
def asPairs (index : Nat) : List Value → Except ConfigError (List (Value × Value))
  | [] => .ok []
  | item :: rest => do
    let pair ← item.asPair index
    let pairs ← asPairs (index + 1) rest
    return pair :: pairs

def namedPairs : List (Value × Value) → Except ConfigError (List (String × Value))
  | [] => .ok []
  | (.str name, v) :: rest => do
    let named ← namedPairs rest
    return (name, v) :: named
  | _ :: _ => .error .nameNotText

/-- A value as named values: nothing if it counts as false, else a mapping or a list of pairs. -/
def asEntries (value : Value) : Except ConfigError (Entries Value) :=
  if !value.truthy then .ok []
  else
    match value with
    | dict entries => .ok entries
    | value =>
      match value.items? with
      | Option.none => .error (.notIterable value.typeName)
      | some items => do
        let pairs ← asPairs 0 items
        let named ← namedPairs pairs
        return Entries.ofList named

end Value

/-- What options are configured from: other options, or a value. -/
inductive ConfigBase where
  | options (options : Options)
  | value (value : Value)

def ConfigBase.fields : ConfigBase → Except ConfigError (Entries Value)
  | options o => .ok o.fields
  | value v => v.asEntries

/-- Reads options from the values of the base with the overrides over them. -/
def FieldReaders.configure (r : FieldReaders) (base : ConfigBase) (overrides : Entries Value) :
    Except ConfigError Options := do
  if (overrides.get? "options").isSome then throw (.repeatedArgument "options")
  let fields ← base.fields
  (Options.ofFields r (fields.putAll overrides)).mapError .invalid

/-- The same with the readers that the program uses. -/
def configure (base : ConfigBase) (overrides : Entries Value) : Except ConfigError Options :=
  FieldReaders.lax.configure base overrides

end Stencil
