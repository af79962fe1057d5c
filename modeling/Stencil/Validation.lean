import Stencil.Text.Utf8
import Stencil.Value

/-!
# Validation of fields

Fields are given by name as values. How a value is read as a text or as a truth value is left to
readers (`FieldReaders`); those that the program uses have some tolerance: bytes stand for their text,
and truth values may be spelled as words or as zero and one. All errors of a record are reported
together.
-/

namespace Stencil

open Text

/-- What is wrong with a field. -/
inductive FieldCause where
  | missing
  | unknown
  | frozen
  | notText
  | notUnicode
  | notFlag
  | unclearFlag
  /-- A check of the record's own refuses the value. -/
  | refused (message : String)
  deriving DecidableEq, Repr

namespace FieldCause

def code : FieldCause → String
  | missing => "missing"
  | unknown => "extra_forbidden"
  | frozen => "frozen_instance"
  | notText => "string_type"
  | notUnicode => "string_unicode"
  | notFlag => "bool_type"
  | unclearFlag => "bool_parsing"
  | refused _ => "value_error"

def message : FieldCause → String
  | missing => "Field required"
  | unknown => "Extra inputs are not permitted"
  | frozen => "Instance is frozen"
  | notText => "Input should be a valid string"
  | notUnicode => "Input should be a valid string, unable to parse raw data as a unicode string"
  | notFlag => "Input should be a valid boolean"
  | unclearFlag => "Input should be a valid boolean, unable to interpret input"
  | refused message => "Value error, " ++ message

end FieldCause

/-- An error with the field that it is about and the value that the field was given. -/
structure FieldError where
  field : String
  cause : FieldCause
  input : Value

namespace FieldError

/-- The text of at most fifty bytes as it is; of a longer one the two ends. -/
def abridged (text : String) : String :=
  let size := text.utf8ByteSize
  if size ≤ 50 then text
  else
    let fits := fun (limit : Nat) (cs : List Char) =>
      (cs.foldl (fun (acc : List Char × Nat) c =>
        let used := acc.2 + c.utf8Size
        (if used ≤ limit then c :: acc.1 else acc.1, used)) ([], 0)).1
    let cs := text.toList
    String.ofList ((fits 25 cs).reverse ++ ['.', '.', '.'] ++ fits 24 cs.reverse)

/-- The lines that describe an error: the field, what is wrong, and a note on errors of that kind. -/
def description (note : FieldCause → String) (e : FieldError) : String :=
  let input := match e.input.inner with
    | .ok text => abridged text
    | .error _ => "<unprintable " ++ e.input.typeName ++ " object>"
  e.field ++ "\n  " ++ e.cause.message ++ " [type=" ++ e.cause.code ++ ", input_value=" ++ input ++
    ", input_type=" ++ e.input.typeName ++ "]" ++ note e.cause

/-- The text of a record's errors, with a note on each. -/
def report (note : FieldCause → String) (record : String) (errors : List FieldError) : String :=
  let count := errors.length
  let noun := if count = 1 then "error" else "errors"
  let heading := s!"{count} validation {noun} for {record}"
  "\n".intercalate (heading :: errors.map (description note))

end FieldError

/-- What the fields of a record are read with. -/
structure FieldReaders where
  text : Value → Except FieldCause String
  flag : Value → Except FieldCause Bool
  /-- The order in which errors are reported that are given in the order of the fields, and those
  about other names after them. -/
  arrange : List FieldError → List FieldError

def asciiLower (text : String) : String :=
  String.ofList (text.toList.map fun c =>
    if 'A' ≤ c && c ≤ 'Z' then Char.ofNat (c.toNat + 32) else c)

/-- The words for true and false; capital letters count as small ones. -/
def flagOfWord? (word : String) : Option Bool :=
  let word := asciiLower word
  if word ∈ ["true", "t", "yes", "y", "on", "1"] then some true
  else if word ∈ ["false", "f", "no", "n", "off", "0"] then some false
  else none

/-- Reads a text, which may be given as bytes. -/
def Value.asText : Value → Except FieldCause String
  | .str s => .ok s
  | .bytes bs =>
    match decodeUtf8 bs with
    | .ok s => .ok s
    | .error _ => .error .notUnicode
  | _ => .error .notText

def flagOfText (text : String) : Except FieldCause Bool :=
  match flagOfWord? text with
  | some b => .ok b
  | none => .error .unclearFlag

/-- The size from which on whole numbers are no numbers for a truth value. -/
def tooLargeForFlag : Float := 9223372036854775808.0

/-- Reads a whole number of at most 64 bits, with its sign, as a truth value. -/
def flagOfInteger (n : Int) : Except FieldCause Bool :=
  if n = 0 then .ok false
  else if n = 1 then .ok true
  else if -0x8000000000000000 ≤ n && n < 0x8000000000000000 then .error .unclearFlag
  else .error .notFlag

def flagOfFloat (x : Float) : Except FieldCause Bool :=
  if x == 0 then .ok false
  else if x == 1 then .ok true
  else if x.floor == x && -tooLargeForFlag < x && x < tooLargeForFlag then .error .unclearFlag
  else .error .notFlag

/-- Reads a truth value, which may be given as a word or as a number. -/
def Value.asFlag : Value → Except FieldCause Bool
  | .bool b => .ok b
  | .str s => flagOfText s
  | .bytes bs =>
    match decodeUtf8 bs with
    | .ok s => flagOfText s
    | .error _ => .error .unclearFlag
  | .int n => flagOfInteger n
  | .float x => flagOfFloat x
  | _ => .error .notFlag

/-- The readers that the program uses. -/
def FieldReaders.lax : FieldReaders where
  text := Value.asText
  flag := Value.asFlag
  arrange errors := errors

/-- A field that is read, or the error it is reported with. -/
def readField {α : Type} (fields : Entries Value) (name : String) (absent : Except FieldCause α)
    (read : Value → Except FieldCause α) : Except FieldError α :=
  match fields.get? name with
  | none => absent.mapError fun cause => ⟨name, cause, .dict fields⟩
  | some v => (read v).mapError fun cause => ⟨name, cause, v⟩

/-- The error of a result, if it is one. -/
def errorOf? {ε α : Type} : Except ε α → Option ε
  | .ok _ => none
  | .error e => some e

end Stencil
