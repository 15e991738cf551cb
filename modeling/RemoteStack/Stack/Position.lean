import RemoteStack.Reader.Text
import RemoteStack.Stack.Code
import RemoteStack.Stack.LineTable

/-!
# Source positions

Where in its source a frame is: the function, the file and the line. While a trace function
is set, the interpreter keeps the line of the frame up to date. Otherwise the line follows
from the line table and the last instruction; a frame that has not started, or that has no
table, is on the first line of its code.
-/

namespace RemoteStack

/-- What stands for a name that a frame does not have. -/
def unknownName : String := "<unknown>"

/-- Where the line of a frame comes from. -/
inductive LineSource where
  /-- From the frame, which a trace function keeps up to date. -/
  | traced
  /-- From the line table. -/
  | lineTable
  /-- From the first line of the code, for want of a table or an instruction. -/
  | firstLine
  /-- From the frame, for want of a code object. -/
  | unknown
  deriving DecidableEq, Repr

/-- The name of the source in the log. -/
def LineSource.name : LineSource → String
  | .traced => "Traced"
  | .lineTable => "LineTable"
  | .firstLine => "FirstLine"
  | .unknown => "Unknown"

/-- Where in its source a frame is. -/
structure Position where
  function : String
  file : String
  line : Nat
  lineSource : LineSource
  deriving DecidableEq, Repr

/-- What is needed to find the positions of frames. -/
structure Resolver where
  reader : Reader
  lineTable : LineTable := .paired

namespace Resolver

/-- The line of a number in the memory of the interpreter. -/
def clampLine (line : Int) : Nat := min line.toNat lineMax

def nameOr (resolver : Resolver) (object : Address) : Probe String := do
  let name? ← resolver.reader.text object
  return name?.getD unknownName

def currentLine (resolver : Resolver) (frame : Address) (code : Code) :
    Probe (Nat × LineSource) := do
  let tracer ← resolver.reader.address frame .frame "f_trace"
  if !tracer.isNull then
    let line ← resolver.reader.integer frame .frame "f_lineno"
    return (clampLine line, .traced)
  let firstLine := clampLine code.firstLine
  let last ← resolver.reader.integer frame .frame "f_lasti"
  if last < 0 || (lineMax : Int) < last then return (firstLine, .firstLine)
  match ← resolver.reader.byteString code.lineTable with
  | some table => return (resolver.lineTable table firstLine last.toNat, .lineTable)
  | none => return (firstLine, .firstLine)

def position (resolver : Resolver) (frame : Address) : Probe Position := do
  let codeAddress ← resolver.reader.address frame .frame "f_code"
  if codeAddress.isNull then
    let line ← resolver.reader.integer frame .frame "f_lineno"
    return ⟨unknownName, unknownName, clampLine line, .unknown⟩
  let code ← resolver.reader.code codeAddress
  let function ← resolver.nameOr code.name
  let file ← resolver.nameOr code.filename
  let (line, lineSource) ← resolver.currentLine frame code
  Probe.trace s!"frame {frame.text}: {function} ({file}:{line}, {lineSource.name})"
  return { function, file, line, lineSource }

end Resolver

end RemoteStack
