import CandidatePool.Text.Json
/-!
Lines of a log.  A line has a level, a target that says which part of the program speaks, and a
message.  It is written in one of two ways, as text or as a JSON object, and always without the
time, which is for whoever runs the program to add.
-/

namespace CandidatePool

/-! ### Levels -/

/-- How much a line matters, from the least on. -/
inductive Level where
  | trace
  | debug
  | info
  | warn
  | error
deriving DecidableEq

namespace Level

def rank : Level → Nat
  | .trace => 0
  | .debug => 1
  | .info => 2
  | .warn => 3
  | .error => 4

def word : Level → String
  | .trace => "TRACE"
  | .debug => "DEBUG"
  | .info => "INFO"
  | .warn => "WARN"
  | .error => "ERROR"

/-- The level that a caller asks for by name.  Case does not count, and any other word means
    `info`. -/
def ofRequest (name : String) : Level :=
  match String.ofList (name.toList.map Char.toLower) with
  | "trace" => .trace
  | "debug" => .debug
  | "warn" | "warning" => .warn
  | "error" => .error
  | _ => .info

end Level

/-! ### Lines -/

structure LogLine where
  level : Level
  target : String
  message : String
deriving DecidableEq

namespace LogLine

/-- Whether a line is to be written when lines below a level are left out. -/
def visible (least : Level) (line : LogLine) : Bool :=
  decide (least.rank ≤ line.level.rank)

/-- Level and message, for a reader who knows who speaks. -/
def brief (line : LogLine) : String :=
  line.level.word ++ " " ++ line.message

/-- The control characters that a terminal would act on and that have a short escape. -/
def terminalControls : List (Char × String) :=
  [('\x1b', "\\x1b"), ('\x07', "\\x07"), ('\x08', "\\x08"), ('\x0c', "\\x0c"), ('\x7f', "\\x7f")]

/-- A character of a message as it is written in text: what a terminal would act on is escaped,
    line breaks and tabs are not. -/
def escapeForTerminal (c : Char) : String :=
  match terminalControls.lookup c with
  | some escaped => escaped
  | none =>
    if 0x80 ≤ c.toNat ∧ c.toNat ≤ 0x9f then
      "\\u\x7b" ++ String.ofList (Nat.toDigits 16 c.toNat) ++ "\x7d"
    else c.toString

/-- A line as text: the level in five columns, the target, the message. -/
def text (line : LogLine) : String :=
  let padding := String.ofList (List.replicate (5 - line.level.word.length) ' ')
  padding ++ line.level.word ++ " " ++ line.target ++ ": "
    ++ String.join (line.message.toList.map escapeForTerminal)

def json (line : LogLine) : String :=
  "\x7b\"level\":" ++ Text.Json.quote line.level.word ++ ",\"fields\":\x7b\"message\":"
    ++ Text.Json.quote line.message ++ "\x7d,\"target\":" ++ Text.Json.quote line.target ++ "\x7d"

end LogLine

end CandidatePool
