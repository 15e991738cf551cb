import RemoteStack.CommandLine.Parse
import RemoteStack.CommandLine.Run
import RemoteStack.Log.Settings
import RemoteStack.Probe.Run

/-!
# The program

Reads the command line and the environment, carries the command out, prints its text, and
writes the events of the log to the error stream. What is decided is decided elsewhere.
-/

namespace RemoteStack.Program

/-- The variables that the program looks at. -/
def variableNames : List String :=
  Limits.variableNames ++ [Log.Settings.formatVariable, Log.Settings.fileVariable]

def environment : IO (String → Option String) := do
  let pairs ← variableNames.mapM fun name => return (name, ← IO.getEnv name)
  return fun name => (pairs.lookup name).join

/-- Why the memory of a process cannot be read: there is no such process, or the platform
has no means for it. -/
def obstacle (pid : Nat) : IO AccessError := do
  try
    let _ ← IO.FS.readFile s!"/proc/{pid}/comm"
    return .refused "live capture is not supported on this platform"
  catch _ => return .noProcess pid

/-- The process that a command looks at. -/
def pidOf? : CommandLine.Command → Option Nat
  | .stack options => some options.pid
  | _ => none

/-- What is said about arguments that are no invocation. -/
def usage : String :=
  Text.ofLines
    ["Inspect the Python stacks of a running CPython 2.4-3.1 process",
     "",
     "Usage: [-v]... <command>",
     "",
     "Commands:",
     "  stack <PID> --thread-state <ADDRESS> --python <X.Y> [--pointer-width <BYTES>]",
     "        [--data-model <MODEL>] [--max-depth <FRAMES>] [--all-threads]",
     "  layout <KIND> --python <X.Y> [--pointer-width <BYTES>] [--data-model <MODEL>]",
     "  versions"]

/-- Answers arguments that are no invocation, with the exit code of the program. -/
def refuse (refusal : CommandLine.Refusal) : IO UInt32 := do
  match refusal with
  | .help =>
    IO.print usage
    return 0
  | .version =>
    IO.println "RemoteStack"
    return 0
  | _ =>
    IO.eprint usage
    return 2

/-- Carries an invocation out, with the exit code of the program. -/
def execute (invocation : CommandLine.Invocation) : IO UInt32 := do
  let environment ← environment
  match Log.Settings.ofEnvironment environment >>= (·.logName) with
  | .error error =>
    IO.eprintln s!"Failed to initialize logging: {error.message}"
    return 1
  | .ok _ =>
    let obstacle? ← (pidOf? invocation.command).mapM obstacle
    let run := (invocation.command.run ⟨environment, fun _ => obstacle?⟩).run Memory.unmapped 0
    for event in run.events do
      if event.isShownAt (.ofVerbosity invocation.verbosity) then
        IO.eprintln s!"{event.level.name}: {event.message}"
    match run.outcome with
    | .ok text =>
      IO.print text
      return 0
    | .error error =>
      IO.eprintln s!"Error: {error.message}"
      return 1
    | .overflow =>
      IO.eprintln "Stopped: a length does not fit a machine word"
      return 101

end RemoteStack.Program

def main (arguments : List String) : IO UInt32 :=
  match RemoteStack.CommandLine.parse arguments with
  | .ok invocation => RemoteStack.Program.execute invocation
  | .error refusal => RemoteStack.Program.refuse refusal
