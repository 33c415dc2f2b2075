import CandidatePool.Product
import CandidatePool.Text.Terminal
/-!
The arguments of the program.  There are two options with a value and three switches, each with a
long name and most with a letter; there are no other arguments.

Arguments are read in order.  An option whose value has not been attached to it waits for the next
argument, and what it waits for is looked at only when something else is to be done: then the value
is recorded, or its absence is an error.  So an argument that is not known at all is reported first,
even behind an option that still waits.
-/

namespace CandidatePool

/-- An option that takes a value. -/
inductive ValueOption where
  | config
  | logLevel
deriving DecidableEq

inductive Switch where
  | jsonLog
  | help
  | version
deriving DecidableEq

inductive Named where
  | valueOption (o : ValueOption)
  | switch (s : Switch)

def ValueOption.usage : ValueOption → String
  | .config => "--config <CONFIG>"
  | .logLevel => "--log-level <LOG_LEVEL>"

def Switch.usage : Switch → String
  | .jsonLog => "--json-log"
  | .help => "--help"
  | .version => "--version"

namespace Named

def ofLong? : String → Option Named
  | "config" => some (.valueOption .config)
  | "log-level" => some (.valueOption .logLevel)
  | "json-log" => some (.switch .jsonLog)
  | "help" => some (.switch .help)
  | "version" => some (.switch .version)
  | _ => none

def ofLetter? : Char → Option Named
  | 'c' => some (.valueOption .config)
  | 'l' => some (.valueOption .logLevel)
  | 'h' => some (.switch .help)
  | 'V' => some (.switch .version)
  | _ => none

end Named

inductive UsageError where
  | unexpectedArgument (argument : String)
  | unexpectedValue (value : String) (switch : Switch)
  | missingValue (o : ValueOption)
  /-- An option or a switch was given a second time. -/
  | repeated (usage : String)
  | missingConfig
deriving DecidableEq

/-- The wording of an error.  What the caller wrote is repeated without control sequences. -/
def UsageError.message : UsageError → String
  | .unexpectedArgument argument =>
    "unexpected argument '" ++ Text.Terminal.strip argument ++ "' found"
  | .unexpectedValue value switch =>
    "unexpected value '" ++ Text.Terminal.strip value ++ "' for '" ++ switch.usage
      ++ "' found; no more were expected"
  | .missingValue o => "a value is required for '" ++ o.usage ++ "' but none was supplied"
  | .repeated usage => "the argument '" ++ usage ++ "' cannot be used multiple times"
  | .missingConfig =>
    "the following required arguments were not provided:\n  " ++ ValueOption.config.usage

/-- What the program is to do with a settings file. -/
structure Options where
  config : String
  logLevel : String := "info"
  jsonLog : Bool := false
deriving DecidableEq

inductive Invocation where
  | help
  | version
  | run (options : Options)
deriving DecidableEq

namespace Arguments

/-- What the arguments so far have said. -/
structure State where
  config : Option String := none
  logLevel : Option String := none
  jsonLog : Bool := false
  /-- The last option, if it is not recorded yet, with its value, if that has come. -/
  pending : Option (ValueOption × Option String) := none
  /-- Whether two dashes alone have come, behind which nothing is an option. -/
  closed : Bool := false

/-- Why reading ends before the last argument. -/
inductive Halt where
  | refused (error : UsageError)
  | help
  | version

/-! ### Options -/

def State.value? (s : State) : ValueOption → Option String
  | .config => s.config
  | .logLevel => s.logLevel

/-- Records the value of an option.  An option has one value, and a path is not empty. -/
def State.record (s : State) (o : ValueOption) (value : String) : Except Halt State :=
  if (s.value? o).isSome then .error (.refused (.repeated o.usage))
  else
    match o with
    | .config =>
      if value = "" then .error (.refused (.missingValue .config))
      else .ok { s with config := some value }
    | .logLevel => .ok { s with logLevel := some value }

/-- Deals with the option that is not recorded yet. -/
def State.settle (s : State) : Except Halt State :=
  match s.pending with
  | none => .ok s
  | some (o, none) => .error (.refused (.missingValue o))
  | some (o, some value) => { s with pending := none }.record o value

def State.give (s : State) (o : ValueOption) (value : String) : Except Halt State := do
  (← s.settle).record o value

/-- An option whose value is to come. -/
def State.await (s : State) (o : ValueOption) : Except Halt State := do
  return { ← s.settle with pending := some (o, none) }

def State.turnOn (s : State) (switch : Switch) : Except Halt State := do
  let s ← s.settle
  match switch with
  | .help => .error .help
  | .version => .error .version
  | .jsonLog =>
    if s.jsonLog then .error (.refused (.repeated switch.usage))
    else .ok { s with jsonLog := true }

/-! ### Arguments -/

/-- An argument behind two dashes: a name, and a value if an equals sign is in it. -/
def State.readLong (s : State) (text : List Char) : Except Halt State :=
  let name := String.ofList (text.takeWhile (· ≠ '='))
  let value? := match text.dropWhile (· ≠ '=') with
    | _ :: value => some (String.ofList value)
    | [] => none
  match Named.ofLong? name, value? with
  | none, _ => .error (.refused (.unexpectedArgument ("--" ++ name)))
  | some (.valueOption o), some value => s.give o value
  | some (.valueOption o), none => s.await o
  | some (.switch switch), some value => .error (.refused (.unexpectedValue value switch))
  | some (.switch switch), none => s.turnOn switch

/-- The letters behind one dash.  What follows the letter of an option is its value, with or without
    an equals sign between them. -/
def State.readLetters (s : State) : List Char → Except Halt State
  | [] => .ok s
  | c :: rest =>
    match Named.ofLetter? c with
    | none => .error (.refused (.unexpectedArgument ("-" ++ c.toString)))
    | some (.switch switch) => do readLetters (← s.turnOn switch) rest
    | some (.valueOption o) =>
      match rest with
      | [] => s.await o
      | '=' :: value => s.give o (String.ofList value)
      | value => s.give o (String.ofList value)

/-- An argument that is no option: the value that an option waits for, or one too many. -/
def State.readPlain (s : State) (argument : String) : Except Halt State :=
  match s.pending with
  | some (o, none) => .ok { s with pending := some (o, some argument) }
  | _ => .error (.refused (.unexpectedArgument argument))

def State.read (s : State) (argument : String) : Except Halt State :=
  if s.closed then .error (.refused (.unexpectedArgument argument))
  else
    match argument.toList with
    | ['-', '-'] => .ok { s with closed := true }
    | '-' :: '-' :: text => s.readLong text
    | '-' :: c :: text => s.readLetters (c :: text)
    | _ => s.readPlain argument

/-- What is asked for when all arguments are read.  There must be a path. -/
def State.finish (s : State) : Except Halt Options := do
  let s ← s.settle
  match s.config with
  | none => .error (.refused .missingConfig)
  | some config =>
    return { config, logLevel := s.logLevel.getD "info", jsonLog := s.jsonLog }

def parse (arguments : List String) : Except UsageError Invocation :=
  match arguments.foldlM State.read {} >>= State.finish with
  | .ok options => .ok (.run options)
  | .error .help => .ok .help
  | .error .version => .ok .version
  | .error (.refused e) => .error e

end Arguments

end CandidatePool
