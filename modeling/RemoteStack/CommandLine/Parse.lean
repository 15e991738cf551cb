import RemoteStack.CommandLine.Draft

/-!
# Reading the command line

The arguments are flags of the whole program, the name of a command, and the arguments of
the command. A command has positional words and flags; flags are given by their full
names (`--name`), with a value as the next argument or after an equals sign, or by a letter
(`-v`), several of which may stand together. After `--` every argument is a word. Flags
about verbosity and help are known everywhere.

A value is judged when the next argument has been recognised, or at the end. Therefore an
argument without meaning is refused before a malformed value that stands directly before it.
-/

namespace RemoteStack.CommandLine

/-! ## Arguments -/

/-- The shape of an argument. -/
inductive Argument where
  /-- The mark after which every argument is a word. -/
  | mark
  /-- A flag by its name, and the value after its equals sign. -/
  | named (name : String) (value : Option String)
  /-- Flags by their letters. -/
  | letters (letters : List Char)
  | word (text : String)
  deriving DecidableEq, Repr

/-- Splits a named flag at its first equals sign. -/
def Argument.ofNamed (text : List Char) : Argument :=
  let name := text.takeWhile (· != '=')
  match text.dropWhile (· != '=') with
  | [] => .named (String.ofList name) none
  | _ :: value => .named (String.ofList name) (some (String.ofList value))

/-- The shape of an argument; a lone hyphen is a word. -/
def Argument.ofText (text : String) : Argument :=
  match text.toList with
  | ['-', '-'] => .mark
  | '-' :: '-' :: rest => .ofNamed rest
  | ['-'] => .word text
  | '-' :: rest => .letters rest
  | _ => .word text

/-! ## Forms -/

/-- What a flag does. -/
inductive Flag where
  /-- It takes a value, which goes to a slot. -/
  | value (slot : Slot)
  | allThreads
  | verbose
  | help
  | version
  deriving DecidableEq, Repr

inductive CommandName where
  | stack
  | layout
  | versions
  deriving DecidableEq, Repr

namespace CommandName

def ofWord? : String → Option CommandName
  | "stack" => some .stack
  | "layout" => some .layout
  | "versions" => some .versions
  | _ => none

def commonFlags : List (String × Flag) := [("verbose", .verbose), ("help", .help)]

/-- The flags that describe the build of the interpreter. -/
def targetFlags : List (String × Flag) :=
  [("python", .value .release), ("pointer-width", .value .pointerBytes),
   ("data-model", .value .dataModel)]

def flags : CommandName → List (String × Flag)
  | .stack =>
    [("thread-state", .value .threadState), ("max-depth", .value .maxDepth),
     ("all-threads", .allThreads)] ++ targetFlags ++ commonFlags
  | .layout => targetFlags ++ commonFlags
  | .versions => commonFlags

def letters : List (Char × Flag) := [('v', .verbose), ('h', .help)]

/-- The slots of the positional words of a command. -/
def words : CommandName → List Slot
  | .stack => [.pid]
  | .layout => [.kind]
  | .versions => []

/-- The command that a draft describes. -/
def command (name : CommandName) (draft : Draft) : Except Refusal Command :=
  match name with
  | .stack => draft.stack
  | .layout => draft.layout
  | .versions => .ok .versions

end CommandName

/-! ## The arguments of a command -/

/-- How far the arguments of a command have been read. -/
structure Progress where
  draft : Draft := {}
  /-- The slot of the last argument, and its value if it has come. -/
  pending : Option (Slot × Option String) := none
  /-- The slots of the words that may still come. -/
  words : List Slot
  /-- The mark has been passed. -/
  isMarked : Bool := false
  deriving DecidableEq, Repr

namespace Progress

/-- Judges the value of the last argument. -/
def settle (progress : Progress) : Except Refusal Progress :=
  match progress.pending with
  | none => .ok progress
  | some (_, none) => .error .missingValue
  | some (slot, some word) => do
    let draft ← progress.draft.store slot word
    return { progress with draft, pending := none }

def takeWord (progress : Progress) (word : String) : Except Refusal Progress :=
  match progress.words with
  | [] => .error .unknownArgument
  | slot :: words => do
    let progress ← progress.settle
    return { progress with words, pending := some (slot, some word) }

/-- Takes a flag that stands without a value. -/
def takeFlag (progress : Progress) (flag : Flag) : Except Refusal Progress := do
  let progress ← progress.settle
  match flag with
  | .value slot => return { progress with pending := some (slot, none) }
  | .allThreads => return { progress with draft := ← progress.draft.chooseAllThreads }
  | .verbose => return { progress with draft := progress.draft.raiseVerbosity }
  | .help => .error .help
  | .version => .error .version

/-- Takes a flag with a value after its equals sign. -/
def takeFlagWith (progress : Progress) (flag : Flag) (value : String) :
    Except Refusal Progress :=
  match flag with
  | .value slot => do
    let progress ← progress.settle
    return { progress with draft := ← progress.draft.store slot value }
  | _ => .error .unwantedValue

def takeLetters (progress : Progress) (known : List (Char × Flag)) :
    List Char → Except Refusal Progress
  | [] => .ok progress
  | letter :: rest =>
    match known.lookup letter with
    | none => .error .unknownArgument
    | some flag => do
      let progress ← progress.takeFlag flag
      progress.takeLetters known rest

/-- Takes an argument of a command. A word after a flag that waits for its value is that
value. -/
def takeArgument (progress : Progress) (name : CommandName) (text : String) :
    Except Refusal Progress :=
  if progress.isMarked then progress.takeWord text
  else
    match Argument.ofText text with
    | .mark => .ok { progress with isMarked := true }
    | .named flagName value? =>
      match name.flags.lookup flagName, value? with
      | none, _ => .error .unknownArgument
      | some flag, none => progress.takeFlag flag
      | some flag, some value => progress.takeFlagWith flag value
    | .letters letters => progress.takeLetters CommandName.letters letters
    | .word word =>
      match progress.pending with
      | some (slot, none) => .ok { progress with pending := some (slot, some word) }
      | _ => progress.takeWord word

end Progress

def parseCommand (name : CommandName) (arguments : List String) : Except Refusal Invocation := do
  let start : Progress := { words := name.words }
  let progress ← arguments.foldlM (fun progress text => progress.takeArgument name text) start
  let progress ← progress.settle
  let command ← name.command progress.draft
  return ⟨progress.draft.verbosity, command⟩

/-! ## The arguments of the program -/

def programFlags : List (String × Flag) := CommandName.commonFlags ++ [("version", .version)]

def programLetters : List (Char × Flag) := CommandName.letters ++ [('V', .version)]

/-- What a request for help with words after it comes to: help with the program, or with a
command, or with helping. -/
def helpRefusal : List String → Refusal
  | [] => .help
  | [word] =>
    if (CommandName.ofWord? word).isSome || word == "help" then .help else .unknownCommand
  | _ => .unknownCommand

/-- Reads what follows the mark before any command: there is no way to a command. -/
def refuseMarked (hasFlags : Bool) : List String → Refusal
  | [] => if hasFlags then .missingCommand else .nothing
  | word :: _ =>
    if (CommandName.ofWord? word).isSome || word == "help" then .unknownArgument
    else .unknownCommand

/-- Takes a flag of the whole program after `verbosity` flags for more events. -/
def takeProgramFlag (verbosity : Nat) : Flag → Except Refusal Nat
  | .verbose => .ok (min (verbosity + 1) 255)
  | .version => .error .version
  | _ => .error .help

def takeProgramLetters (verbosity : Nat) : List Char → Except Refusal Nat
  | [] => .ok verbosity
  | letter :: rest =>
    match programLetters.lookup letter with
    | none => .error .unknownArgument
    | some flag => do
      let verbosity ← takeProgramFlag verbosity flag
      takeProgramLetters verbosity rest

/-- Reads arguments after `verbosity` flags for more events. Those given with the command
count instead, if there are any. -/
def parseFrom (verbosity : Nat) : List String → Except Refusal Invocation
  | [] => .error (if 0 < verbosity then .missingCommand else .nothing)
  | text :: rest =>
    match CommandName.ofWord? text with
    | some name => do
      let invocation ← parseCommand name rest
      if invocation.verbosity = 0 then return { invocation with verbosity }
      else return invocation
    | none =>
      if text = "help" then .error (helpRefusal rest)
      else
        match Argument.ofText text with
        | .mark => .error (refuseMarked (0 < verbosity) rest)
        | .named flagName value? =>
          match programFlags.lookup flagName, value? with
          | none, _ => .error .unknownArgument
          | some _, some _ => .error .unwantedValue
          | some flag, none => do
            let verbosity ← takeProgramFlag verbosity flag
            parseFrom verbosity rest
        | .letters letters => do
          let verbosity ← takeProgramLetters verbosity letters
          parseFrom verbosity rest
        | .word _ => .error .unknownCommand

def parse (arguments : List String) : Except Refusal Invocation := parseFrom 0 arguments

end RemoteStack.CommandLine
