import RemoteStack.Reader.Basic

/-!
# Code objects

What a code object says about its source. The objects of the 3.x releases also count the
keyword-only arguments.
-/

namespace RemoteStack

structure Code where
  address : Address
  argCount : Int
  name : Address
  filename : Address
  firstLine : Int
  /-- The byte string that holds the line table. -/
  lineTable : Address
  /-- The number of keyword-only arguments, in releases that count them. -/
  keywordOnlyArgCount : Option Int
  deriving DecidableEq, Repr

def Code.shape (code : Code) : CodeShape :=
  match code.keywordOnlyArgCount with
  | none => .classic
  | some _ => .keywordOnly

/-- Reads the code object at an address, in the shape of the version. -/
def Reader.code (reader : Reader) (address : Address) : Probe Code := do
  let argCount ← reader.integer address .code "co_argcount"
  let name ← reader.address address .code "co_name"
  let filename ← reader.address address .code "co_filename"
  let firstLine ← reader.integer address .code "co_firstlineno"
  let lineTable ← reader.address address .code "co_lnotab"
  let keywordOnlyArgCount ←
    match reader.version.codeShape with
    | .classic => pure none
    | .keywordOnly =>
      let count ← reader.integer address .code "co_kwonlyargcount"
      pure (some count)
  return { address, argCount, name, filename, firstLine, lineTable, keywordOnlyArgCount }

end RemoteStack
