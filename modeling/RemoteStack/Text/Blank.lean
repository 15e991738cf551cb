import RemoteStack.Text.Runs

/-!
# Blanks

The characters with the Unicode property White_Space, and the trimming of them from both
ends of a text.
-/

namespace RemoteStack.Text

/-- The first and last code points of each run of blank characters. -/
def blankRuns : List (Nat × Nat) :=
  [(0x09, 0x0d), (0x20, 0x20), (0x85, 0x85), (0xa0, 0xa0), (0x1680, 0x1680),
   (0x2000, 0x200a), (0x2028, 0x2029), (0x202f, 0x202f), (0x205f, 0x205f), (0x3000, 0x3000)]

/-- The character is white space. -/
def isBlank (c : Char) : Bool := inRuns c.toNat blankRuns

theorem isBlank_iff {c : Char} :
    isBlank c ↔ ∃ run ∈ blankRuns, run.1 ≤ c.toNat ∧ c.toNat ≤ run.2 :=
  inRuns_iff (show ascendFrom 0 blankRuns by decide)

/-- Removes the blanks at both ends. -/
def trim (text : List Char) : List Char :=
  ((text.dropWhile isBlank).reverse.dropWhile isBlank).reverse

end RemoteStack.Text
