import RemoteStack.Text.Numeral
import RemoteStack.Text.Blank
import RemoteStack.Rejection

/-!
# Interpreter releases

A `Release` is a major and a minor number, ordered lexicographically. `Release.supported`
lists the releases whose object layouts are known, and a `ReleaseRange` is an inclusive
interval. Its `span` counts the supported releases inside it: of two ranges that hold a
release, the one with the smaller span says more about it.
-/

namespace RemoteStack

/-- A release of the interpreter, without its patch number. -/
structure Release where
  major : Nat
  minor : Nat
  deriving DecidableEq, Repr

namespace Release

/-- The releases whose object layouts are known, oldest first. -/
def supported : List Release := [⟨2, 4⟩, ⟨2, 5⟩, ⟨2, 6⟩, ⟨2, 7⟩, ⟨3, 0⟩, ⟨3, 1⟩]

/-- The position among the supported releases. -/
def ordinal? (release : Release) : Option Nat := supported.idxOf? release

def isSupported (release : Release) : Bool := supported.contains release

/-- The order of releases: by major number, then by minor number. -/
instance : LE Release where
  le earlier later :=
    earlier.major < later.major ∨ (earlier.major = later.major ∧ earlier.minor ≤ later.minor)

instance (earlier later : Release) : Decidable (earlier ≤ later) :=
  inferInstanceAs (Decidable (_ ∨ _))

/-- The written form, such as `2.7`. -/
def text (release : Release) : String := s!"{release.major}.{release.minor}"

/-- Reads the first two of the numbers between points, each at most 255; blanks around the
whole text and any further parts are ignored. -/
def parse (input : String) : Except Rejection Release :=
  let number? (part : List Char) := Base.decimal.unsigned? 8 part
  match (Text.trim input.toList).splitOn '.' with
  | major :: minor :: _ =>
    match number? major, number? minor with
    | some major, some minor => .ok ⟨major, minor⟩
    | _, _ => .error (.release input)
  | _ => .error (.release input)

end Release

/-! ## Ranges -/

/-- The releases from `first` to `last`, both included. -/
structure ReleaseRange where
  first : Release
  last : Release
  deriving DecidableEq, Repr

namespace ReleaseRange

def single (release : Release) : ReleaseRange := ⟨release, release⟩

/-- A release lies in a range if it is neither before the first nor after the last. -/
instance : Membership Release ReleaseRange where
  mem range release := range.first ≤ release ∧ release ≤ range.last

instance (range : ReleaseRange) (release : Release) : Decidable (release ∈ range) :=
  inferInstanceAs (Decidable (_ ∧ _))

/-- The release is the first or the last of the range. -/
def isEndpoint (range : ReleaseRange) (release : Release) : Bool :=
  release == range.first || release == range.last

/-- How many supported releases lie in the range. -/
def span (range : ReleaseRange) : Nat := (Release.supported.filter (· ∈ range)).length

/-- The written form: both ends, or the release when there is only one. -/
def text (range : ReleaseRange) : String :=
  if range.first = range.last then range.first.text
  else s!"{range.first.text}-{range.last.text}"

end ReleaseRange

end RemoteStack
