import RemoteStack.Address
import RemoteStack.Version

/-!
# Commands

What the command line can ask for, and why a list of arguments asks for nothing.
-/

namespace RemoteStack.CommandLine

/-- The build of the interpreter, as the user describes it. -/
structure TargetOptions where
  release : Release
  pointerBytes : Nat
  dataModel : DataModel
  deriving DecidableEq, Repr

/-- The capture of a running process. -/
structure StackOptions where
  pid : Nat
  threadState : Address
  target : TargetOptions
  maxDepth : Option Nat
  /-- The thread state is the head of a list, every thread of which is captured. -/
  allThreads : Bool
  deriving DecidableEq, Repr

/-- What is asked for. -/
inductive Command where
  | stack (options : StackOptions)
  | layout (kind : ObjectKind) (target : TargetOptions)
  | versions
  deriving DecidableEq, Repr

/-- A command, and how much is to be said about its execution. -/
structure Invocation where
  verbosity : Nat
  command : Command
  deriving DecidableEq, Repr

/-- Why a list of arguments is not an invocation. -/
inductive Refusal where
  /-- An argument has no meaning in its place. -/
  | unknownArgument
  /-- A word is not of the form that its place asks for. -/
  | invalidWord
  /-- A flag that takes a value stands without one. -/
  | missingValue
  /-- A flag that takes no value stands with one. -/
  | unwantedValue
  | repeatedFlag
  /-- Something that the command needs is absent. -/
  | missingArgument
  | unknownCommand
  /-- There are flags, but no command. -/
  | missingCommand
  /-- There is nothing. -/
  | nothing
  | help
  | version
  deriving DecidableEq, Repr

end RemoteStack.CommandLine
