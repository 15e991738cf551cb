import RemoteStack.Layout.Basic
import RemoteStack.Stack.Snapshot
import RemoteStack.Text.Column

/-!
# Reports

What the command line prints: captured stacks, the table of a layout, and the table of the
supported releases. Every line ends with a line feed.
-/

namespace RemoteStack

def Text.ofLines (lines : List String) : String := String.join (lines.map (· ++ "\n"))

/-! ## Stacks -/

namespace ThreadSnapshot

def frameLine (frame : Frame) : String :=
  s!"  #{Text.leftIn 3 (toString frame.index)} {frame.text}"

/-- The lines of a thread: its frames, and why they are not all. -/
def reportLines (snapshot : ThreadSnapshot) : List String :=
  let isEmpty := snapshot.frames.isEmpty && snapshot.error.isNone
  [s!"Thread {snapshot.thread.text} (state {snapshot.threadState.text}):"]
    ++ (if isEmpty then ["  <no Python frames>"] else [])
    ++ snapshot.frames.map frameLine
    ++ (snapshot.error.map fun error => s!"  [stack incomplete: {error.message}]").toList

end ThreadSnapshot

/-- The report of a process: its threads, and why they are not all. -/
def ProcessSnapshot.report (snapshot : ProcessSnapshot) : String :=
  Text.ofLines <|
    snapshot.threads.flatMap (·.reportLines)
      ++ (snapshot.error.map fun error => s!"[thread list incomplete: {error.message}]").toList

/-! ## Layouts -/

namespace Layout

/-- A row of the table of fields. -/
def row (name offset size type : String) : String :=
  s!"  {Text.leftIn 24 name} {Text.rightIn 6 offset} {Text.rightIn 6 size}  {type}"

def fieldRow (field : Field) : String :=
  row field.name (toString field.offset) (toString field.size) field.type.label

/-- The report of a layout: a row for each field, and the size. -/
def report (layout : Layout) (version : Version) : String :=
  Text.ofLines <|
    [s!"{layout.kind.name} layout for {version.text}, entry {layout.range.text}:",
      row "field" "offset" "size" "type"]
      ++ layout.fields.map fieldRow
      ++ [s!"  sizeof = {layout.size}"]

end Layout

/-! ## Releases -/

namespace Release

/-- A row of the table of releases. -/
def row (release family widths : String) : String :=
  s!"{Text.leftIn 8 release} {Text.leftIn 10 family} {widths}"

/-- The row of a supported release: its family, and the pointer widths it is read with. -/
def supportRow (release : Release) : String :=
  let family : Family := if release ∈ Family.python2.range then .python2 else .python3
  let widths := [PointerWidth.four, .eight].filter (release.Fits ·)
  row release.text family.name (", ".intercalate (widths.map fun width => toString width.bytes))

/-- The report of the supported releases. -/
def supportReport : String :=
  Text.ofLines (row "release" "family" "pointer widths" :: supported.map supportRow)

end Release

end RemoteStack
