import Stencil.Options
import Stencil.Text.Case

/-!
# Settings

Defaults of the command line and the flags of the log, which environment variables may override.
The name of a variable counts without regard to case.
-/

namespace Stencil

/-- Settings that the environment may override. -/
structure Settings where
  beQuiet : Bool := false
  noComplain : Bool := false
  tokens : String := defaultTokens
  throws : Bool := false
  pattern : String := "**/*.tmpl"
  deriving DecidableEq, Repr, Inhabited

namespace Settings

/-- What the names of the variables start with. -/
def variableStart : String := "subst_"

def lowerName (name : String) : String :=
  String.ofList (Text.lower name.toList)

/-- The variables by their names in lower case; of two such names the later one counts. -/
def named (environment : List (String × String)) : Entries Value :=
  Entries.ofList (environment.map fun (name, value) => (lowerName name, .str value))

/-- Reads a setting, under its own name, from the variable for it. -/
def readVariable {α : Type} (vars : Entries Value) (name : String) (absent : α)
    (read : Value → Except FieldCause α) : Except FieldError α :=
  (readField vars (variableStart ++ lowerName name) (.ok absent) read).mapError fun e =>
    { e with field := name }

def ofEnvironment (r : FieldReaders) (environment : List (String × String)) :
    Except (List FieldError) Settings :=
  let vars := named environment
  let d : Settings := {}
  let beQuiet := readVariable vars "beQuiet" d.beQuiet r.flag
  let noComplain := readVariable vars "noComplain" d.noComplain r.flag
  let tokens := readVariable vars "tokens" d.tokens r.text
  let throws := readVariable vars "throws" d.throws r.flag
  let pattern := readVariable vars "pattern" d.pattern r.text
  match beQuiet, noComplain, tokens, throws, pattern with
  | .ok beQuiet, .ok noComplain, .ok tokens, .ok throws, .ok pattern =>
    .ok { beQuiet, noComplain, tokens, throws, pattern }
  | beQuiet, noComplain, tokens, throws, pattern =>
    .error (r.arrange ((errorOf? beQuiet).toList ++ (errorOf? noComplain).toList
      ++ (errorOf? tokens).toList ++ (errorOf? throws).toList ++ (errorOf? pattern).toList))

end Settings

end Stencil
