import CandidatePool.Program.Run
/-!
The program on a real system: it reads the file that the arguments name, and writes the lines of the
run.
-/

namespace CandidatePool

/-- Why the system could not read a file. -/
def ReadFailure.ofSystem : IO.Error → ReadFailure
  | .noFileOrDirectory _ _ _ => .notFound
  | .inappropriateType _ 20 _ => .notDirectory
  | .inappropriateType _ _ _ => .isDirectory
  | e => .other (toString e)

def readFile (path : String) : IO (Except ReadFailure ByteArray) := do
  try
    return .ok (← IO.FS.readBinFile path)
  catch e =>
    return .error (.ofSystem e)

/-- The settings file that the arguments name, read. -/
def readNamedFile (arguments : List String) : IO (Except ReadFailure ByteArray) :=
  match Arguments.parse arguments with
  | .ok (.run options) => readFile options.config
  | .ok .help | .ok .version | .error _ => return .error .notFound

def runProgram (arguments : List String) : IO UInt32 := do
  let file ← readNamedFile arguments
  let ending := Program.run (fun _ => file) arguments
  ending.output.forM IO.println
  ending.complaint.forM IO.eprintln
  return ending.code.toUInt32

end CandidatePool

def main (arguments : List String) : IO UInt32 :=
  CandidatePool.runProgram arguments
