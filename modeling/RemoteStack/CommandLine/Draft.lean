import RemoteStack.CommandLine.Command

/-!
# Drafts of commands

While arguments are read, their values are collected in a `Draft`. Each value has a
`Slot`, which may be filled once, and only with a word of its form. At the end the draft
gives a command, if everything that the command needs is there.
-/

namespace RemoteStack.CommandLine

/-- Where the value of an argument goes. -/
inductive Slot where
  | pid
  | threadState
  | release
  | pointerBytes
  | dataModel
  | maxDepth
  | kind
  deriving DecidableEq, Repr

/-- The values read so far. -/
structure Draft where
  pid : Option Nat := none
  threadState : Option Address := none
  release : Option Release := none
  pointerBytes : Option Nat := none
  dataModel : Option DataModel := none
  maxDepth : Option Nat := none
  kind : Option ObjectKind := none
  allThreads : Bool := false
  verbosity : Nat := 0
  deriving DecidableEq, Repr

namespace Draft

/-! ## Filling slots -/

/-- Reads a process number: a signed number that fits 32 bits without a sign. -/
def parsePid? (word : String) : Option Nat :=
  (signedWord? word.toList).bind fun n => if 0 ≤ n ∧ n < UInt32.size then some n.toNat else none

/-- Reads a number that fits 64 bits. -/
def parseCount? (word : String) : Option Nat := Base.decimal.unsigned? 64 word.toList

/-- The value of a slot after a word was put there: it must be free, and the word readable. -/
def fill {α : Type} (current parsed : Option α) : Except Refusal (Option α) :=
  if current.isSome then .error .repeatedFlag
  else if parsed.isNone then .error .invalidWord
  else .ok parsed

/-- Puts a word into a slot. -/
def store (draft : Draft) (slot : Slot) (word : String) : Except Refusal Draft :=
  match slot with
  | .pid => return { draft with pid := ← fill draft.pid (parsePid? word) }
  | .threadState =>
    return { draft with threadState := ← fill draft.threadState (Address.parse word).toOption }
  | .release => return { draft with release := ← fill draft.release (Release.parse word).toOption }
  | .pointerBytes =>
    return { draft with pointerBytes := ← fill draft.pointerBytes (parseCount? word) }
  | .dataModel =>
    return { draft with dataModel := ← fill draft.dataModel (DataModel.parse word).toOption }
  | .maxDepth => return { draft with maxDepth := ← fill draft.maxDepth (parseCount? word) }
  | .kind => return { draft with kind := ← fill draft.kind (ObjectKind.parse word).toOption }

/-- Notes the flag for every thread. -/
def chooseAllThreads (draft : Draft) : Except Refusal Draft :=
  if draft.allThreads then .error .repeatedFlag else .ok { draft with allThreads := true }

/-- Counts a flag for more events, up to what a byte holds. -/
def raiseVerbosity (draft : Draft) : Draft :=
  { draft with verbosity := min (draft.verbosity + 1) 255 }

/-! ## Commands from drafts -/

/-- A value that the command needs. -/
def needed {α : Type} : Option α → Except Refusal α
  | some value => .ok value
  | none => .error .missingArgument

/-- The build that the draft describes: by default one with wide pointers and `long`s. -/
def target (draft : Draft) : Except Refusal TargetOptions := do
  let release ← needed draft.release
  return {
    release
    pointerBytes := draft.pointerBytes.getD 8
    dataModel := draft.dataModel.getD .lp64 }

/-- The capture that the draft describes. -/
def stack (draft : Draft) : Except Refusal Command := do
  let pid ← needed draft.pid
  let threadState ← needed draft.threadState
  let target ← draft.target
  return .stack {
    pid
    threadState
    target
    maxDepth := draft.maxDepth
    allThreads := draft.allThreads }

/-- The layout that the draft describes. -/
def layout (draft : Draft) : Except Refusal Command := do
  let kind ← needed draft.kind
  return .layout kind (← draft.target)

end Draft

end RemoteStack.CommandLine
