import RemoteStack.CommandLine.Command
import RemoteStack.Reader.Version
import RemoteStack.Report
import RemoteStack.Stack.Decoder

/-!
# Carrying commands out

A command is a probe that gives the text to print. What it needs of the machine that it
runs on, beside the memory of a process, is a `Host`.
-/

namespace RemoteStack.CommandLine

/-- The machine that a command runs on. -/
structure Host where
  /-- The variables of the environment. -/
  environment : String → Option String
  /-- Why the memory of a process cannot be read, if it cannot. -/
  obstacle? : Nat → Option AccessError

/-- The version that the user describes. -/
def TargetOptions.version (target : TargetOptions) : Probe Version :=
  Version.choose target.release target.pointerBytes target.dataModel

/-- The limits of a capture: those of the environment, with the depth that was asked for. -/
def StackOptions.limits (options : StackOptions) (host : Host) : Probe Limits := do
  let (limits, events) := Limits.ofEnvironment host.environment
  Probe.reportAll events
  return { limits with maxDepth := options.maxDepth.getD limits.maxDepth }

/-- Captures what was asked for. -/
def StackOptions.capture (options : StackOptions) (decoder : Decoder) : Probe ProcessSnapshot :=
  if options.allThreads then decoder.captureAll options.threadState
  else do
    let thread ← decoder.capture options.threadState
    return ⟨[thread], none⟩

/-- Captures the stacks of a process. The version is judged before the process is. -/
def StackOptions.run (options : StackOptions) (host : Host) : Probe String := do
  let limits ← options.limits host
  let version ← options.target.version
  match host.obstacle? options.pid with
  | some obstacle => .failed (.inaccessible obstacle)
  | none =>
    Probe.debug s!"bound memory reader to process {options.pid}"
    let decoder ← Decoder.prepare version
    Probe.info s!"capturing process {options.pid} as {version.text}"
    let snapshot ← options.capture { decoder with limits }
    return snapshot.report

/-- Carries a command out, and gives the text to print. -/
def Command.run (command : Command) (host : Host) : Probe String :=
  match command with
  | .stack options => options.run host
  | .layout kind target => do
    let version ← target.version
    let layout ← ({ version, limits := {} } : Reader).layout kind
    return layout.report version
  | .versions => return Release.supportReport

end RemoteStack.CommandLine
