import Stencil.Batch
import Stencil.Settings

/-!
# The command line

Arguments are options and operands. A long option may be abbreviated as long as only one option
starts that way, its value may follow an equals sign, and options of one letter may be written
together. After a double hyphen there are only operands.
-/

namespace Stencil.CommandLine

/-- The options of the command. -/
inductive Flag where
  | help
  | context
  | pattern
  | tokens
  | throws
  | version
  | saveInputMeta
  | saveOutputMeta
  deriving DecidableEq, Repr, Inhabited

namespace Flag

def spellings : Flag → List String
  | help => ["-h", "--help"]
  | context => ["--context"]
  | pattern => ["--pattern"]
  | tokens => ["--tokens"]
  | throws => ["--throws", "--no-throws"]
  | version => ["-V", "--version"]
  | saveInputMeta => ["--saveinputmeta"]
  | saveOutputMeta => ["--saveoutputmeta"]

def takesValue : Flag → Bool
  | context | pattern | tokens => true
  | _ => false

end Flag

/-- The operands of the command. -/
inductive Operand where
  | inputDirectory
  | outputDirectory
  deriving DecidableEq, Repr

def Operand.name : Operand → String
  | inputDirectory => "inputdir"
  | outputDirectory => "outputdir"

/-- The options and the operands that arguments may give, in the order in which they are listed. -/
structure Grammar where
  flags : List Flag
  operands : List Operand

namespace Grammar

def options : Grammar where
  flags := [.help, .context, .pattern, .tokens, .throws, .version]
  operands := []

def command : Grammar where
  flags := options.flags ++ [.saveInputMeta, .saveOutputMeta]
  operands := [.inputDirectory, .outputDirectory]

def table (g : Grammar) : List (String × Flag) :=
  g.flags.flatMap fun f => f.spellings.map fun s => (s, f)

def ofSpelling? (g : Grammar) (s : String) : Option Flag :=
  Entries.get? g.table s

end Grammar

/-- Why arguments are refused. -/
inductive UsageError where
  | ambiguous (argument : String) (candidates : List String)
  | missingValue (flag : Flag)
  | ignoredValue (flag : Flag) (value : String)
  | missingOperands (operands : List Operand)
  | unrecognized (arguments : List String)
  deriving DecidableEq, Repr

def UsageError.message : UsageError → String
  | ambiguous argument candidates =>
    "ambiguous option: " ++ argument ++ " could match " ++ ", ".intercalate candidates
  | missingValue flag =>
    "argument " ++ "/".intercalate flag.spellings ++ ": expected one argument"
  | ignoredValue flag value =>
    "argument " ++ "/".intercalate flag.spellings ++ ": ignored explicit argument " ++
      Text.quoted value
  | missingOperands operands =>
    "the following arguments are required: " ++ ", ".intercalate (operands.map Operand.name)
  | unrecognized arguments => "unrecognized arguments: " ++ " ".intercalate arguments

/-- An option as it is written: its spelling in full, and a value that is part of the argument. -/
structure Written where
  flag : Flag
  spelling : String
  value : Option String
  deriving DecidableEq, Repr

/-- What an argument is. -/
inductive Mark where
  | operand
  | separator
  | option (written : Written)
  /-- It looks like an option, but there is none with this name. -/
  | unknown
  deriving DecidableEq, Repr

/-- A text up to its first equals sign, and what follows the sign. -/
def splitEquals : List Char → List Char × Option (List Char)
  | [] => ([], none)
  | '=' :: cs => ([], some cs)
  | c :: cs =>
    let r := splitEquals cs
    (c :: r.1, r.2)

def dropLineFeed (cs : List Char) : List Char :=
  if cs.getLast? = some '\n' then cs.dropLast else cs

/--
Tells whether a text is a negative number: digits with at most one point that digits follow, and
perhaps a line feed.
-/
def isNegativeNumber (cs : List Char) : Bool :=
  match dropLineFeed cs with
  | '-' :: cs =>
    let whole := cs.takeWhile Text.isDecimalDigit
    match cs.drop whole.length with
    | [] => !whole.isEmpty
    | '.' :: fraction => !fraction.isEmpty && fraction.all Text.isDecimalDigit
    | _ => false
  | _ => false

/-- The options that an abbreviated argument may mean. -/
def candidates (g : Grammar) (argument : String) : List Written :=
  match argument.toList with
  | '-' :: '-' :: _ =>
    let (name, value) := splitEquals argument.toList
    g.table.filterMap fun (spelling, flag) =>
      if name.isPrefixOf spelling.toList then some ⟨flag, spelling, value.map String.ofList⟩
      else none
  | '-' :: letter :: rest =>
    g.table.filterMap fun (spelling, flag) =>
      if spelling.toList = ['-', letter] then some ⟨flag, spelling, some (String.ofList rest)⟩
      else if argument.toList.isPrefixOf spelling.toList then some ⟨flag, spelling, none⟩
      else none
  | _ => []

/-- Tells what an argument is that does not follow a double hyphen. -/
def markOf (g : Grammar) (argument : String) : Except UsageError Mark :=
  let cs := argument.toList
  if cs.head? ≠ some '-' then .ok .operand
  else
    match g.ofSpelling? argument with
    | some flag => .ok (.option ⟨flag, argument, none⟩)
    | none =>
      if cs.length = 1 then .ok .operand
      else
        let (name, value) := splitEquals cs
        let spelling := String.ofList name
        match value, g.ofSpelling? spelling with
        | some v, some flag => .ok (.option ⟨flag, spelling, some (String.ofList v)⟩)
        | _, _ =>
          match candidates g argument with
          | [written] => .ok (.option written)
          | [] =>
            if isNegativeNumber cs || cs.contains ' ' then .ok .operand else .ok .unknown
          | several => .error (.ambiguous argument (several.map (·.spelling)))

def marksOf (g : Grammar) : List String → Except UsageError (List (String × Mark))
  | [] => .ok []
  | "--" :: rest => .ok (("--", .separator) :: rest.map fun a => (a, .operand))
  | a :: rest => do
    let mark ← markOf g a
    let marks ← marksOf g rest
    return (a, mark) :: marks

/-- The value that an argument gives: a double hyphen gives none. -/
def valueOf (argument : String) : Option String :=
  if argument = "--" then none else some argument

/-- What the arguments ask for. -/
structure Parsed where
  options : BatchOptions
  operands : List (Operand × Option String) := []
  /-- Arguments that are neither options nor operands, in order. -/
  extras : List String := []
  deriving Repr

/-- The arguments ask for a text instead of a run. -/
inductive Halt where
  | usage (error : UsageError)
  | help
  | version
  deriving DecidableEq, Repr

def Parsed.set (p : Parsed) (flag : Flag) (spelling : String) (value : Option String) :
    Except Halt Parsed :=
  match flag with
  | .help => .error .help
  | .version => .error .version
  | .saveInputMeta | .saveOutputMeta => .ok p
  | .throws =>
    .ok { p with options := { p.options with throws := !"--no-".toList.isPrefixOf spelling.toList } }
  | .context => .ok { p with options := { p.options with context := value } }
  | .pattern => .ok { p with options := { p.options with pattern := value } }
  | .tokens => .ok { p with options := { p.options with tokens := value } }

/-- Takes over options without values, one after the other. -/
def Parsed.setAll (p : Parsed) (flags : List (Flag × String)) : Except Halt Parsed :=
  flags.foldlM (fun (p : Parsed) f => p.set f.1 f.2 none) p

/--
The options of one letter that are written together after `flag`, with their spellings. None of
them has a value, and a letter that is no option makes all that is left a value of the last one.
-/
def letters (g : Grammar) (flag : Flag) (spelling : String) :
    List Char → Except UsageError (List (Flag × String))
  | [] => .ok [(flag, spelling)]
  | letter :: rest =>
    let next := String.ofList ['-', letter]
    match g.ofSpelling? next with
    | none => .error (.ignoredValue flag (String.ofList (letter :: rest)))
    | some other => do
      let more ← letters g other next rest
      return (flag, spelling) :: more

/-- Tells whether an option is written with a single hyphen. -/
def isShort (spelling : String) : Bool :=
  spelling.toList[1]? ≠ some '-'

/-- Takes over an option that stands before `rest`, and tells how many of those it takes. -/
def setOption (g : Grammar) (p : Parsed) (w : Written) (rest : List (String × Mark)) :
    Except Halt (Parsed × Nat) :=
  match w.value with
  | some value =>
    if w.flag.takesValue then
      (p.set w.flag w.spelling (valueOf value)).map fun p => (p, 0)
    else if isShort w.spelling && !value.isEmpty then
      match letters g w.flag w.spelling value.toList with
      | .ok flags => (p.setAll flags).map fun p => (p, 0)
      | .error e => .error (.usage e)
    else .error (.usage (.ignoredValue w.flag value))
  | none =>
    if w.flag.takesValue then
      match rest with
      | (value, .operand) :: _ => (p.set w.flag w.spelling (some value)).map fun p => (p, 1)
      | _ => .error (.usage (.missingValue w.flag))
    else (p.set w.flag w.spelling none).map fun p => (p, 0)

/--
The value of the operand at the start of some arguments, and what follows it. A separator may stand
around an operand; without one, a double hyphen is no value.
-/
def operand? : List (String × Mark) → Option (Option String × List (String × Mark))
  | ("--", .separator) :: (a, .operand) :: rest => some (some a, rest)
  | (a, .operand) :: ("--", .separator) :: rest => some (some a, rest)
  | (a, .operand) :: rest => some (valueOf a, rest)
  | _ => none

def setOperands (p : Parsed) : List Operand → List (String × Mark) →
    Parsed × List Operand × List (String × Mark)
  | [], rest => (p, [], rest)
  | o :: os, rest =>
    match operand? rest with
    | none => (p, o :: os, rest)
    | some (a, rest) => setOperands { p with operands := p.operands ++ [(o, a)] } os rest

/-- The arguments that are no option at the start of others. -/
def beforeOption (args : List (String × Mark)) : List (String × Mark) :=
  args.takeWhile fun a =>
    match a.2 with
    | .operand => true
    | .separator => true
    | _ => false

/-- Tells whether there is an option among some arguments. -/
def hasOption (args : List (String × Mark)) : Bool :=
  (beforeOption args).length < args.length

/--
Takes over arguments from the first to the last; `fuel` is at least twice their number. Operands are
taken where they stand; what no operand takes before the last option, or after it, is extra.
-/
def consume (g : Grammar) : Nat → Parsed → List Operand → List (String × Mark) →
    Except Halt (Parsed × List Operand)
  | 0, p, os, args => .ok ({ p with extras := p.extras ++ args.map (·.1) }, os)
  | fuel + 1, p, os, args =>
    let (p, os, left) := setOperands p os args
    if !hasOption args then .ok ({ p with extras := p.extras ++ left.map (·.1) }, os)
    else if left.length < args.length then consume g fuel p os left
    else
      let plain := beforeOption args
      let p := { p with extras := p.extras ++ plain.map (·.1) }
      match args.drop plain.length with
      | (_, .option w) :: rest => do
        let (p, taken) ← setOption g p w rest
        consume g fuel p os (rest.drop taken)
      | (a, _) :: rest => consume g fuel { p with extras := p.extras ++ [a] } os rest
      | [] => .ok (p, os)

/-- Reads arguments; what is neither an option nor an operand of the grammar is extra. -/
def parseKnown (g : Grammar) (defaults : BatchOptions) (arguments : List String) :
    Except Halt Parsed := do
  let marks ← (marksOf g arguments).mapError .usage
  let (p, missing) ← consume g (2 * marks.length + 2) { options := defaults } g.operands marks
  if missing.isEmpty then return p else throw (.usage (.missingOperands missing))

/-- Reads the arguments of the command; there must be nothing extra. -/
def parse (defaults : BatchOptions) (arguments : List String) : Except Halt Parsed := do
  let p ← parseKnown .command defaults arguments
  if p.extras.isEmpty then return p else throw (.usage (.unrecognized p.extras))

/-- The options that the settings give where the arguments do not. -/
def defaultsOf (s : Settings) : BatchOptions :=
  { pattern := some s.pattern, tokens := some s.tokens, throws := s.throws }

end Stencil.CommandLine
