import RemoteStack.Text.Keyword
import RemoteStack.Rejection

/-!
# Levels and events of the log

An `Event` is a line of the log with the `Level` that it is reported at. A reader of the
log chooses a level and sees the events of that level and of the graver ones.
-/

namespace RemoteStack.Log

/-- How grave an event is. -/
inductive Level where
  | error
  | warn
  | info
  | debug
  /-- One event for each value that is read. -/
  | trace
  deriving DecidableEq, Repr

namespace Level

/-- The levels from the gravest, 0, to the finest, 4. -/
def rank : Level → Nat
  | .error => 0
  | .warn => 1
  | .info => 2
  | .debug => 3
  | .trace => 4

def name : Level → String
  | .error => "error"
  | .warn => "warn"
  | .info => "info"
  | .debug => "debug"
  | .trace => "trace"

/-- The level that a number of verbosity flags asks for. -/
def ofVerbosity : Nat → Level
  | 0 => .warn
  | 1 => .info
  | 2 => .debug
  | _ => .trace

/-- Reads the name of a level, or a common short form, in any case. -/
def parse (input : String) : Except Rejection Level :=
  match Text.small input with
  | "error" | "err" => .ok .error
  | "warn" | "warning" => .ok .warn
  | "info" => .ok .info
  | "debug" | "dbg" => .ok .debug
  | "trace" => .ok .trace
  | _ => .error (.logLevel input)

end Level

structure Event where
  level : Level
  message : String
  deriving DecidableEq, Repr

/-- The event is shown to a reader who chose the level. -/
def Event.isShownAt (event : Event) (level : Level) : Bool := event.level.rank ≤ level.rank

end RemoteStack.Log
