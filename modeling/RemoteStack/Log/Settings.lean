import RemoteStack.Log.Level

/-!
# Settings of the log

The form of the log, and the file that it is written to beside the error stream. Both are
chosen by environment variables. A file path must end in a file name: the log is split by
day, and the name is what the days are appended to.
-/

namespace RemoteStack.Log

inductive Format where
  /-- Lines for a human reader. -/
  | pretty
  /-- One JSON object per event. -/
  | json
  deriving DecidableEq, Repr

/-- Reads the name of a format, or one of its synonyms, in any case. -/
def Format.parse (input : String) : Except Rejection Format :=
  match Text.small input with
  | "pretty" | "text" | "dev" => .ok .pretty
  | "json" | "prod" => .ok .json
  | _ => .error (.logFormat input)

/-- Why a log cannot be set up. -/
inductive SettingsError where
  | invalidFormat (cause : Rejection)
  /-- The path does not end in a file name. -/
  | invalidPath (path : String)
  deriving DecidableEq, Repr

def SettingsError.message : SettingsError → String
  | .invalidFormat cause => s!"Invalid log format: {cause.message}"
  | .invalidPath path => s!"Invalid log file path: {path}"

/-- How the log is kept. -/
structure Settings where
  /-- The chosen level; when absent the environment decides. -/
  level : Option Level := none
  format : Format := .pretty
  file : Option String := none
  deriving DecidableEq, Repr

namespace Settings

/-- The variable that names the format. -/
def formatVariable : String := "PYSCOPE_LOG_FORMAT"

/-- The variable that names the file. -/
def fileVariable : String := "PYSCOPE_LOG_FILE"

/-- The settings that the environment asks for; an empty file path asks for no file. -/
def ofEnvironment (environment : String → Option String) : Except SettingsError Settings := do
  let format ←
    match environment formatVariable with
    | none => .ok .pretty
    | some word => (Format.parse word).mapError .invalidFormat
  return { format, file := (environment fileVariable).filter (· != "") }

/-! ## The log file -/

/-- The named parts of a path: what stands between slashes, without empty parts and dots. -/
def pathParts (path : String) : List (List Char) :=
  (path.toList.splitOn '/').filter fun part => part != [] && part != ['.']

/-- The file name that a path ends in, if it ends in one. -/
def fileName? (path : String) : Option String :=
  match (pathParts path).getLast? with
  | none => none
  | some part => if part = ['.', '.'] then none else some (String.ofList part)

/-- The name of the log file, absent when no file was asked for. -/
def logName (settings : Settings) : Except SettingsError (Option String) :=
  match settings.file with
  | none => .ok none
  | some path =>
    match fileName? path with
    | some name => .ok (some name)
    | none => .error (.invalidPath path)

end Settings

end RemoteStack.Log
