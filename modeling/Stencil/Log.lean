/-!
# Log records

What is written to the log: messages for debugging and complaints, each of which can be switched off
by a flag.
-/

namespace Stencil

/-- How serious a log record is. -/
inductive Level where
  | debug
  | error
  deriving DecidableEq, Repr

def Level.name : Level → String
  | debug => "DEBUG"
  | error => "ERROR"

/-- A message in the log. -/
structure LogRecord where
  level : Level
  message : String
  deriving DecidableEq, Repr

/-- What is kept out of the log: debugging messages and complaints. -/
structure Flags where
  beQuiet : Bool := false
  noComplain : Bool := false
  deriving DecidableEq, Repr, Inhabited

namespace Flags

/-- A message for debugging, unless these are switched off. -/
def debug (f : Flags) (message : String) : List LogRecord :=
  if f.beQuiet then [] else [⟨.debug, message⟩]

/-- A complaint, unless these are switched off. -/
def complain (f : Flags) (message : String) : List LogRecord :=
  if f.noComplain then [] else [⟨.error, message⟩]

end Flags

end Stencil
