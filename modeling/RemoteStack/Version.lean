import RemoteStack.DecodeError
import RemoteStack.Text.Keyword

/-!
# Interpreter versions

A `Version` is what every layout lookup is keyed by: a supported release, the family it
belongs to and the binary interface (`Abi`) of the machine that it was built for. The only
way to one is `Version.select`, which refuses every combination that has no layouts; the
two refusals that concern the release stay with the value as proofs, so whoever holds a
version need not check it again.
-/

namespace RemoteStack

/-! ## Machines -/

inductive PointerWidth where
  | four
  | eight
  deriving DecidableEq, Repr

namespace PointerWidth

def bytes : PointerWidth → Nat
  | .four => 4
  | .eight => 8

def ofBytes? : Nat → Option PointerWidth
  | 4 => some .four
  | 8 => some .eight
  | _ => none

end PointerWidth

/-- The C data model of a build: it decides the size of a C `long` and of a text unit. -/
inductive DataModel where
  /-- A `long` has the size of a pointer, a text unit four bytes. -/
  | lp64
  /-- A `long` has four bytes, a text unit two. -/
  | llp64
  deriving DecidableEq, Repr

namespace DataModel

def unicodeUnit : DataModel → Nat
  | .lp64 => 4
  | .llp64 => 2

/-- The written form of the model within that of a version. -/
def text : DataModel → String
  | .lp64 => "Lp64"
  | .llp64 => "Llp64"

/-- Reads the name of a model, or of a system that uses it, in any case. -/
def parse (input : String) : Except Rejection DataModel :=
  match Text.small input with
  | "lp64" | "unix" | "linux" | "macos" => .ok .lp64
  | "llp64" | "windows" | "win" => .ok .llp64
  | _ => .error (.dataModel input)

end DataModel

structure Abi where
  pointerWidth : PointerWidth
  dataModel : DataModel
  deriving DecidableEq, Repr

namespace Abi

/-- The size of a pointer, and of a size, in bytes. -/
def wordSize (abi : Abi) : Nat := abi.pointerWidth.bytes

/-- The size of a C `long` in bytes. -/
def longSize (abi : Abi) : Nat :=
  match abi.dataModel with
  | .lp64 => abi.wordSize
  | .llp64 => 4

def unicodeUnit (abi : Abi) : Nat := abi.dataModel.unicodeUnit

end Abi

/-! ## Families -/

/-- Releases that share the shape of a code object and the kinds of their texts. -/
inductive Family where
  | python2
  | python3
  deriving DecidableEq, Repr

namespace Family

def range : Family → ReleaseRange
  | .python2 => ⟨⟨2, 4⟩, ⟨2, 7⟩⟩
  | .python3 => ⟨⟨3, 0⟩, ⟨3, 1⟩⟩

def name : Family → String
  | .python2 => "Python2"
  | .python3 => "Python3"

/-- The written form of the family within that of a version. -/
def text (family : Family) : String := s!"{family.range.text} compatible"

end Family

inductive CodeShape where
  /-- Names are byte strings. -/
  | classic
  /-- Keyword-only arguments are counted, and names are Unicode texts. -/
  | keywordOnly
  deriving DecidableEq, Repr

/-! ## Versions -/

/-- The release has layouts for pointers of this width. Those of 2.4 hold on narrow machines
alone: its wide builds have other object heads. -/
def Release.Fits (release : Release) (width : PointerWidth) : Prop :=
  ¬(release = ⟨2, 4⟩ ∧ width = .eight)

instance (release : Release) (width : PointerWidth) : Decidable (release.Fits width) :=
  inferInstanceAs (Decidable (¬_))

/-- A release with layouts, on a machine with layouts. -/
structure Version where
  release : Release
  family : Family
  abi : Abi
  release_mem : release ∈ family.range
  release_fits : release.Fits abi.pointerWidth
  deriving DecidableEq, Repr

namespace Version

theorem release_mem_supported (version : Version) : version.release ∈ Release.supported := by
  obtain ⟨⟨major, minor⟩, family, _, mem, _⟩ := version
  cases family <;>
    · change (_ ∨ _) ∧ (_ ∨ _) at mem
      simp only [Family.range] at mem
      simp only [Release.supported, List.mem_cons, Release.mk.injEq, List.not_mem_nil, or_false]
      omega

/-- The version of a release on a machine, or why it has no layouts: the pointer width is
judged first, then the release alone, then both together. -/
def select (release : Release) (pointerBytes : Nat) (dataModel : DataModel) :
    Except DecodeError Version :=
  let refuse (reason : String) : Except DecodeError Version :=
    .error (.unsupportedVersion release pointerBytes reason)
  match PointerWidth.ofBytes? pointerBytes with
  | none => refuse "pointer width must be 4 or 8 bytes"
  | some pointerWidth =>
    let inFamily (family : Family) (mem : release ∈ family.range) :=
      if fits : release.Fits pointerWidth then
        .ok ⟨release, family, ⟨pointerWidth, dataModel⟩, mem, fits⟩
      else refuse "64-bit 2.4 builds use int-sized object headers"
    if mem : release ∈ Family.python2.range then inFamily .python2 mem
    else if mem : release ∈ Family.python3.range then inFamily .python3 mem
    else refuse "release outside the supported 2.4-3.1 range"

def codeShape (version : Version) : CodeShape :=
  match version.family with
  | .python2 => .classic
  | .python3 => .keywordOnly

/-- The kind of the objects that hold the names of functions and files. -/
def textKind (version : Version) : ObjectKind :=
  match version.family with
  | .python2 => .string
  | .python3 => .unicode

/-- The kind of the objects that hold line tables. -/
def lineTableKind (version : Version) : ObjectKind :=
  match version.family with
  | .python2 => .string
  | .python3 => .bytes

/-- The kind of the objects that hold small integers. -/
def intKind (version : Version) : ObjectKind :=
  match version.family with
  | .python2 => .int
  | .python3 => .long

/-- The written form, such as `2.7 (2.4-2.7 compatible, 64-bit, Lp64)`. -/
def text (version : Version) : String :=
  s!"{version.release.text} ({version.family.text}, {version.abi.wordSize * 8}-bit, "
    ++ s!"{version.abi.dataModel.text})"

end Version

end RemoteStack
