import CandidatePool.Allocator.Basic
import CandidatePool.Program.Arguments
import CandidatePool.Settings.Load
/-!
The program: it loads settings, applies them to a new allocator over sessions that do no work, and
reports what came of it.  Nothing touches the network.

Everything up to the lines written is here, as a function of the arguments and of what reading a
file gives.  The report is a log, of which only the lines of the level asked for or above are
written.
-/

namespace CandidatePool

namespace Program

/-- How a run of the program ends. -/
inductive Ending where
  | help
  | version
  | refused (error : UsageError)
  | failed (error : LoadError)
  /-- With the report, without the lines below the level asked for. -/
  | reported (jsonLog : Bool) (lines : List LogLine)

/-! ### The report -/

/-- A line that the program itself says. -/
def say (message : String) : LogLine :=
  ⟨.info, Product.name, message⟩

/-- The lines before the settings are applied. -/
def opening (path : String) : List LogLine :=
  [say ("Icepool v" ++ Product.version),
   say ("Configuration loaded from: " ++ Text.Quoted.quote path)]

/-- The lines that name the servers in effect. -/
def serverLines (servers : Servers) : List LogLine :=
  servers.stun.texts.map (fun t => say ("STUN server: " ++ t)) ++
    servers.relayTexts.map fun t => say ("TURN server: " ++ t)

/-- The line that sums up how the pool stands. -/
def summary (a : Allocator) : LogLine :=
  say ("Candidate pool size: " ++ toString a.target ++ ", pooled sessions: "
    ++ toString a.statistics.pooled.toNat ++ ", created: "
    ++ toString a.statistics.created.toNat)

/-- All lines of a run.  The factory of a dry run has no limit and fails at nothing, so the pool is
    always filled. -/
def report (path : String) (s : Settings) : List LogLine :=
  let applied := Allocator.reconcile ({} : FactoryPlan).factory {} {} s.servers s.poolSize
  opening path ++ applied.events.map Event.line ++ serverLines applied.allocator.servers
    ++ [summary applied.allocator]

/-! ### Runs -/

def run (read : ReadFile) (arguments : List String) : Ending :=
  match Arguments.parse arguments with
  | .error e => .refused e
  | .ok .help => .help
  | .ok .version => .version
  | .ok (.run options) =>
    match Settings.load read options.config with
    | .error e => .failed e
    | .ok s =>
      .reported options.jsonLog
        ((report options.config s).filter (LogLine.visible (.ofRequest options.logLevel)))

/-! ### What is written -/

def helpLines : List String :=
  [Product.purpose,
   "",
   "Usage: " ++ Product.name ++ " [OPTIONS] --config <CONFIG>",
   "",
   "Options:",
   "  -c, --config <CONFIG>        Path to configuration file",
   "  -l, --log-level <LOG_LEVEL>  Log level (trace, debug, info, warn, error) [default: info]",
   "      --json-log               Enable JSON logging format",
   "  -h, --help                   Print help",
   "  -V, --version                Print version"]

/-- The lines of a text.  A line ends with a line feed, or with a carriage return and one. -/
def linesOf (text : String) : List String :=
  (text.splitOn "\n").map fun line =>
    if line.toList.getLast? = some '\r' then String.ofList line.toList.dropLast else line

/-- What is written to the standard output: texts with a line break behind each. -/
def Ending.output : Ending → List String
  | .help => helpLines
  | .version => [Product.name ++ " " ++ Product.version]
  | .refused _ | .failed _ => []
  | .reported true lines => lines.map LogLine.json
  | .reported false lines => lines.map LogLine.text

/-- What is written to the standard error, likewise: the error, and behind an empty line what may
    help. -/
def Ending.complaint : Ending → List String
  | .help | .version | .reported _ _ => []
  | .refused e => ["error: " ++ e.message, "", "For more information, try '--help'."]
  | .failed e =>
    ("Error: " ++ e.message) ::
      match e.cause? with
      | some cause => ["", "Caused by:", "    " ++ cause]
      | none => []

def Ending.stdout (e : Ending) : List String := e.output.flatMap linesOf

def Ending.stderr (e : Ending) : List String := e.complaint.flatMap linesOf

/-- The exit code: 2 for arguments that make no sense, 1 for settings that cannot be loaded. -/
def Ending.code : Ending → UInt8
  | .help | .version | .reported _ _ => 0
  | .refused _ => 2
  | .failed _ => 1

end Program

end CandidatePool
