import Mathlib.Algebra.BigOperators.Fin
import Mathlib.Algebra.Order.BigOperators.Group.Finset
import RemoteStack.Stack.LineTable

/-!
# Line tables as programs

What a table of pairs says, apart from the loop that reads it. A `LineStep` leads a number of
bytes of instructions and a number of lines further on, both without bound. A list of steps
stands for a table, whose pairs are its steps, and for a program, which a table was written from.

* **steps** — `linesTo` adds the lines of the steps that do not lead past a target. A step that
  leads past it hides the steps behind it (`linesTo_cons`, `linesTo_append`);
* **tables** — a table is read as the first line and the lines of its pairs up to the target, or
  as the greatest line if this is beyond it (`pairedFrom_eq`). Neither the early end of the loop nor
  its two saturated sums are seen below the greatest target;
* **programs** — a pair has room for 255 bytes and 255 lines, so a longer step is written as a run
  of pairs (`LineStep.SplitInto`). Its lines count as a whole or not at all (`linesTo_run`), so the
  table is read as the program (`paired_of_program`).
-/

namespace RemoteStack

/-- So many bytes of instructions, and so many lines, further on. -/
structure LineStep where
  instructions : Nat
  lines : Nat
  deriving DecidableEq, Repr

namespace LineTable

/-! ## Steps -/

/-- The instruction that the steps up to the one at `i` lead to. -/
def reach (steps : List LineStep) (i : Nat) : Nat :=
  ((steps.take (i + 1)).map (·.instructions)).sum

/-- The lines of all steps that do not lead past the target. -/
def linesTo (target : Nat) (steps : List LineStep) : Nat :=
  ∑ i : Fin steps.length, if reach steps i ≤ target then steps[i].lines else 0

/-- Where all of the steps lead. -/
def fullReach (steps : List LineStep) : Nat := (steps.map (·.instructions)).sum

def allLines (steps : List LineStep) : Nat := (steps.map (·.lines)).sum

@[simp] theorem reach_cons_zero (step : LineStep) (rest : List LineStep) :
    reach (step :: rest) 0 = step.instructions := by
  simp [reach]

@[simp] theorem reach_cons_succ (step : LineStep) (rest : List LineStep) (i : Nat) :
    reach (step :: rest) (i + 1) = step.instructions + reach rest i := by
  simp [reach]

@[simp] theorem fullReach_cons (step : LineStep) (rest : List LineStep) :
    fullReach (step :: rest) = step.instructions + fullReach rest := by
  simp [fullReach]

@[simp] theorem allLines_cons (step : LineStep) (rest : List LineStep) :
    allLines (step :: rest) = step.lines + allLines rest := by
  simp [allLines]

@[simp] theorem linesTo_nil (target : Nat) : linesTo target [] = 0 := rfl

/-- Behind a step that leads past the target no step counts. -/
theorem linesTo_cons (target : Nat) (step : LineStep) (rest : List LineStep) :
    linesTo target (step :: rest) =
      if step.instructions ≤ target then
        step.lines + linesTo (target - step.instructions) rest
      else 0 := by
  have first : linesTo target (step :: rest) =
      (if step.instructions ≤ target then step.lines else 0) +
        ∑ i : Fin rest.length,
          if step.instructions + reach rest i ≤ target then rest[i].lines else 0 := by
    unfold linesTo
    refine (Fin.sum_univ_succ _).trans ?_
    simp
  rw [first]
  split
  · congr 1
    refine Finset.sum_congr rfl fun i _ => ?_
    congr 1
    rw [eq_iff_iff]
    omega
  · rw [Nat.zero_add]
    refine Finset.sum_eq_zero fun i _ => if_neg ?_
    omega

/-- Of steps in front, those behind count from where they lead. -/
theorem linesTo_append (target : Nat) (steps rest : List LineStep) :
    linesTo target (steps ++ rest) = linesTo target steps +
      if fullReach steps ≤ target then linesTo (target - fullReach steps) rest else 0 := by
  induction steps generalizing target with
  | nil => simp [fullReach]
  | cons step steps ih =>
    rw [List.cons_append, linesTo_cons, linesTo_cons, fullReach_cons]
    by_cases le : step.instructions ≤ target
    · rw [if_pos le, if_pos le, ih, Nat.add_assoc, Nat.sub_sub]
      congr 2
      congr 1
      rw [eq_iff_iff]
      omega
    · rw [if_neg le, if_neg le, if_neg (by omega)]

theorem linesTo_eq_allLines {target : Nat} {steps : List LineStep}
    (reached : fullReach steps ≤ target) : linesTo target steps = allLines steps := by
  induction steps generalizing target with
  | nil => rfl
  | cons step rest ih =>
    rw [fullReach_cons] at reached
    rw [linesTo_cons, if_pos (by omega), ih (by omega), allLines_cons]

theorem linesTo_mono {target later : Nat} (le : target ≤ later) (steps : List LineStep) :
    linesTo target steps ≤ linesTo later steps := by
  refine Finset.sum_le_sum fun i _ => ?_
  split
  · rw [if_pos (by omega)]
  · exact Nat.zero_le _

/-! ## Tables -/

/-- The pairs of a table; an odd last byte is dropped. -/
def pairs : Bytes → List LineStep
  | instructions :: lines :: rest => ⟨instructions.toNat, lines.toNat⟩ :: pairs rest
  | _ => []

/-- From any point below the target on, the loop adds the lines of the pairs up to the target. -/
theorem pairedFrom_eq {target instruction line : Nat} (inRange : target < lineMax)
    (before : instruction ≤ target) (le : line ≤ lineMax) (table : Bytes) :
    pairedFrom target instruction line table =
      min lineMax (line + linesTo (target - instruction) (pairs table)) := by
  induction table using pairs.induct generalizing instruction line with
  | case1 instructions lines rest ih =>
    rw [pairedFrom, pairs, linesTo_cons]
    dsimp only
    -- an instruction that was cut is beyond the target, as the one without bound is
    by_cases past : target < instruction + instructions.toNat
    · have cut : target < advance instruction instructions.toNat := by
        unfold advance
        omega
      rw [if_pos cut, if_neg (by omega), Nat.add_zero, Nat.min_eq_right le]
    · have reached : advance instruction instructions.toNat = instruction + instructions.toNat := by
        unfold advance
        omega
      have cut : advance line lines.toNat ≤ lineMax := Nat.min_le_right _ _
      rw [reached, if_neg past, if_pos (by omega), ih (by omega) cut, Nat.sub_sub]
      -- a line that was cut stays at the greatest one
      unfold advance
      omega
  | case2 table noPair =>
    rw [pairedFrom.eq_2 _ _ _ _ noPair, pairs.eq_2 _ noPair, linesTo_nil, Nat.add_zero,
      Nat.min_eq_right le]

/-- Within the range of lines and instructions, a table is read as the sum without bound of the
lines of its pairs up to the target, cut at the greatest line. So a line is never before the
first one, and a later instruction never on an earlier line. -/
theorem paired_eq_sum (table : Bytes) {firstLine target : Nat} (first : firstLine ≤ lineMax)
    (inRange : target < lineMax) :
    paired table firstLine target = min lineMax (firstLine + linesTo target (pairs table)) ∧
      firstLine ≤ paired table firstLine target ∧
      ∀ earlier ≤ target, paired table firstLine earlier ≤ paired table firstLine target := by
  have line (instruction : Nat) (le : instruction ≤ target) :
      paired table firstLine instruction =
        min lineMax (firstLine + linesTo instruction (pairs table)) :=
    pairedFrom_eq (by omega) (Nat.zero_le _) first table
  refine ⟨line target (Nat.le_refl _), ?_, ?_⟩
  · rw [line target (Nat.le_refl _)]
    omega
  · intro earlier le
    have more := linesTo_mono le (pairs table)
    rw [line target (Nat.le_refl _), line earlier le]
    omega

/-- A long gap, two pairs at one instruction of which the second leads beyond the greatest line,
and an odd last byte. -/
theorem paired_eq_sum_at_end :
    let table : Bytes := [255, 0, 45, 0, 2, 7, 0, 200, 9]
    let firstLine := lineMax - 100
    firstLine ≤ lineMax ∧ 302 < lineMax ∧ linesTo 302 (pairs table) = 207 ∧
      paired table firstLine 302 = lineMax ∧ paired table firstLine 301 ≤ lineMax := by
  intro table firstLine
  have first : firstLine ≤ lineMax := by decide
  have inRange : 302 < lineMax := by decide
  have lines : linesTo 302 (pairs table) = 207 := by decide
  obtain ⟨sum, _, monotone⟩ := paired_eq_sum table first inRange
  have most : paired table firstLine 302 = lineMax := by
    rw [sum, lines]
    decide
  exact ⟨first, inRange, lines, most, most ▸ monotone 301 (by decide)⟩

/-! ## Programs -/

/-- The step that a pair of bytes stands for. -/
def stepOf (pair : UInt8 × UInt8) : LineStep := ⟨pair.1.toNat, pair.2.toNat⟩

/-- The run of pairs leads as far as the step, and counts no line before it is there. -/
structure SplitInto (step : LineStep) (run : List (UInt8 × UInt8)) : Prop where
  instructions : fullReach (run.map stepOf) = step.instructions
  lines : allLines (run.map stepOf) = step.lines
  late : ∀ i (_ : i < run.length), reach (run.map stepOf) i < step.instructions → run[i].2 = 0

/-- The table of the runs, one after the other. -/
def tableOf (runs : List (List (UInt8 × UInt8))) : Bytes :=
  runs.flatten.flatMap fun (instructions, lines) => [instructions, lines]

theorem pairs_tableOf (runs : List (List (UInt8 × UInt8))) :
    pairs (tableOf runs) = runs.flatten.map stepOf := by
  unfold tableOf
  induction runs.flatten with
  | nil => rfl
  | cons pair rest ih =>
    rw [List.flatMap_cons, List.map_cons, ← ih]
    rfl

/-- The lines of a run count as those of the step: all of them, or none. -/
theorem linesTo_run {step : LineStep} {run : List (UInt8 × UInt8)} (split : SplitInto step run)
    (target : Nat) (rest : List LineStep) :
    linesTo target (run.map stepOf ++ rest) = linesTo target (step :: rest) := by
  rw [linesTo_append, linesTo_cons, split.instructions]
  by_cases reached : step.instructions ≤ target
  · have all := linesTo_eq_allLines (split.instructions.trans_le reached)
    rw [if_pos reached, if_pos reached, all, split.lines]
  · -- the pairs up to the target are not yet at the end of the step
    have none : linesTo target (run.map stepOf) = 0 := by
      refine Finset.sum_eq_zero fun i _ => ?_
      split
      · rename_i before
        have inRun : i.val < run.length := i.isLt.trans_eq (List.length_map _)
        have noLines : run[i.val].2 = 0 := split.late i inRun (by omega)
        simp [stepOf, noLines]
      · rfl
    rw [if_neg reached, if_neg reached, none]

theorem linesTo_runs {program : List LineStep} {runs : List (List (UInt8 × UInt8))}
    (split : List.Forall₂ SplitInto program runs) (target : Nat) :
    linesTo target (runs.flatten.map stepOf) = linesTo target program := by
  induction split generalizing target with
  | nil => rfl
  | cons first _ ih =>
    rw [List.flatten_cons, List.map_append, linesTo_run first, linesTo_cons, linesTo_cons, ih]

/-! ### The usual runs -/

/-- How often 255 is written before the rest of a number that does not fit a byte. -/
def fullBytes (n : Nat) : Nat := if 255 < n then n / 255 else 0

def lastByte (n : Nat) : UInt8 := UInt8.ofNat (n - 255 * fullBytes n)

/-- Pairs that lead so many instructions and then `full` times 255 and `last` lines further on. -/
def jump (instructions last : UInt8) : Nat → List (UInt8 × UInt8)
  | 0 => [(instructions, last)]
  | full + 1 => (instructions, 255) :: jump 0 last full

/-- The run that the interpreter's compiler writes: the instructions without lines first, and
then the lines without further instructions. -/
def usualRun (step : LineStep) : List (UInt8 × UInt8) :=
  List.replicate (fullBytes step.instructions) (255, 0) ++
    jump (lastByte step.instructions) (lastByte step.lines) (fullBytes step.lines)

example : usualRun ⟨300, 600⟩ = [(255, 0), (45, 255), (0, 255), (0, 90)] := by decide

theorem fullBytes_add_lastByte (n : Nat) : 255 * fullBytes n + (lastByte n).toNat = n := by
  have small : n - 255 * fullBytes n < 256 ∧ 255 * fullBytes n ≤ n := by
    unfold fullBytes
    split <;> omega
  rw [lastByte, UInt8.toNat_ofNat_of_lt' small.1]
  omega

/-- A pair with lines may only stand in front of a run without instructions. -/
theorem SplitInto.cons {step : LineStep} {run : List (UInt8 × UInt8)} (split : SplitInto step run)
    (pair : UInt8 × UInt8) (late : 0 < step.instructions → pair.2 = 0) :
    SplitInto ⟨pair.1.toNat + step.instructions, pair.2.toNat + step.lines⟩ (pair :: run) where
  instructions := by
    rw [← split.instructions]
    rfl
  lines := by
    rw [← split.lines]
    rfl
  late i inRun before := by
    cases i with
    | zero =>
      refine late ?_
      simp only [List.map_cons, reach_cons_zero, stepOf] at before
      omega
    | succ i =>
      refine split.late i (Nat.lt_of_succ_lt_succ inRun) ?_
      simp only [List.map_cons, reach_cons_succ, stepOf] at before
      omega

theorem splitInto_nil : SplitInto ⟨0, 0⟩ [] := ⟨rfl, rfl, nofun⟩

theorem splitInto_jump (instructions last : UInt8) (full : Nat) :
    SplitInto ⟨instructions.toNat, 255 * full + last.toNat⟩ (jump instructions last full) := by
  induction full generalizing instructions with
  | zero => simpa [jump] using splitInto_nil.cons (instructions, last) nofun
  | succ full ih =>
    have more := (ih 0).cons (instructions, 255) nofun
    have lines : 255 * (full + 1) + last.toNat = 255 + (255 * full + last.toNat) := by omega
    rw [lines]
    exact more

theorem SplitInto.behind_gap {step : LineStep} {run : List (UInt8 × UInt8)}
    (split : SplitInto step run) (gaps : Nat) :
    SplitInto ⟨255 * gaps + step.instructions, step.lines⟩
      (List.replicate gaps (255, 0) ++ run) := by
  induction gaps with
  | zero => simpa using split
  | succ gaps ih =>
    have more := ih.cons (255, 0) fun _ => rfl
    have instructions : 255 * (gaps + 1) + step.instructions =
        255 + (255 * gaps + step.instructions) := by omega
    rw [instructions, ← Nat.zero_add step.lines]
    exact more

theorem splitInto_usualRun (step : LineStep) : SplitInto step (usualRun step) := by
  have run := (splitInto_jump (lastByte step.instructions) (lastByte step.lines)
    (fullBytes step.lines)).behind_gap (fullBytes step.instructions)
  rw [fullBytes_add_lastByte, fullBytes_add_lastByte] at run
  exact run

/-- However the steps of a program are split into pairs, the table is read as the program: the
first line and the lines of the steps up to the target, cut at the greatest line. The runs that the
interpreter's compiler writes are such a splitting. -/
theorem paired_of_program (program : List LineStep) {firstLine target : Nat}
    (first : firstLine ≤ lineMax) (inRange : target < lineMax) :
    (∀ runs, List.Forall₂ SplitInto program runs →
      paired (tableOf runs) firstLine target =
        min lineMax (firstLine + linesTo target program)) ∧
      List.Forall₂ SplitInto program (program.map usualRun) := by
  constructor
  · intro runs split
    rw [← linesTo_runs split, ← pairs_tableOf]
    exact pairedFrom_eq inRange (Nat.zero_le _) first _
  · rw [List.forall₂_map_right_iff, List.forall₂_same]
    exact fun step _ => splitInto_usualRun step

/-- Instructions and lines of one step in turn, and lines of another one in two pairs: a target
within the first step counts none of its lines, and its end counts all. -/
theorem paired_of_program_unusual :
    let program : List LineStep := [⟨300, 600⟩, ⟨0, 3⟩]
    let runs : List (List (UInt8 × UInt8)) :=
      [[(200, 0), (0, 0), (100, 90), (0, 255), (0, 255)], [(0, 1), (0, 2)]]
    (10 ≤ lineMax ∧ 300 < lineMax ∧ List.Forall₂ SplitInto program runs) ∧
      paired (tableOf runs) 10 299 = 10 ∧ paired (tableOf runs) 10 300 = 613 ∧
      paired (tableOf (program.map usualRun)) 10 300 = 613 := by
  intro program runs
  have first : 10 ≤ lineMax := by decide
  have inRange : 300 < lineMax := by decide
  have split : List.Forall₂ SplitInto program runs :=
    .cons ⟨by decide, by decide, by decide⟩ (.cons ⟨by decide, by decide, by decide⟩ .nil)
  have within := (paired_of_program program first (by decide : 299 < lineMax)).1 runs split
  obtain ⟨atEnd, usual⟩ := paired_of_program program first inRange
  refine ⟨⟨first, inRange, split⟩, within.trans ?_, (atEnd runs split).trans ?_,
    (atEnd _ usual).trans ?_⟩
  all_goals decide

end LineTable

end RemoteStack
