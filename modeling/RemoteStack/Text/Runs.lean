/-!
# Runs of code points

A class of characters is given by the runs of their code points: the first and the last of
each run, in ascending order. `inRuns` tells whether a number is in one of the runs.
-/

namespace RemoteStack.Text

/-- The number is in one of the runs, which stand in ascending order. -/
def inRuns (n : Nat) : List (Nat × Nat) → Bool
  | [] => false
  | (first, last) :: rest => first ≤ n && (n ≤ last || inRuns n rest)

/-- The runs ascend from a number on. -/
def ascendFrom (least : Nat) : List (Nat × Nat) → Bool
  | [] => true
  | (first, last) :: rest => least ≤ first && first ≤ last && ascendFrom last rest

theorem le_of_ascendFrom {least : Nat} {runs : List (Nat × Nat)} (h : ascendFrom least runs)
    {run : Nat × Nat} (mem : run ∈ runs) : least ≤ run.1 := by
  induction runs generalizing least with
  | nil => simp at mem
  | cons head rest ih =>
    simp only [ascendFrom, Bool.and_eq_true, decide_eq_true_eq] at h
    have ⟨⟨above, ordered⟩, rest_ascends⟩ := h
    rcases List.mem_cons.1 mem with rfl | mem
    · exact above
    · have := ih rest_ascends mem; omega

/-- In ascending runs, to stop at the first run above the number is to miss none. -/
theorem inRuns_iff {n least : Nat} {runs : List (Nat × Nat)} (h : ascendFrom least runs) :
    inRuns n runs ↔ ∃ run ∈ runs, run.1 ≤ n ∧ n ≤ run.2 := by
  induction runs generalizing least with
  | nil => simp [inRuns]
  | cons head rest ih =>
    simp only [ascendFrom, Bool.and_eq_true, decide_eq_true_eq] at h
    have ⟨⟨_, ordered⟩, rest_ascends⟩ := h
    simp only [inRuns, Bool.and_eq_true, Bool.or_eq_true, decide_eq_true_eq,
      ih rest_ascends, List.mem_cons, exists_eq_or_imp]
    constructor
    · rintro ⟨first, last | later⟩
      · exact .inl ⟨first, last⟩
      · exact .inr later
    · rintro (⟨first, last⟩ | ⟨run, mem, first, last⟩)
      · exact ⟨first, .inl last⟩
      · have := le_of_ascendFrom rest_ascends mem
        exact ⟨by omega, .inr ⟨run, mem, first, last⟩⟩

end RemoteStack.Text
