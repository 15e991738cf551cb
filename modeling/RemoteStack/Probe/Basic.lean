import RemoteStack.DecodeError
import RemoteStack.LittleEndian
import RemoteStack.Log.Level

/-!
# Probes

A `Probe` is a computation that looks into the memory of a process: a tree whose nodes ask
for bytes and go on with the answer, or report an event to the log. Whoever decodes a value
writes a probe. What the probe does depends on nothing but the answers that it gets, so
that a statement about every memory is an induction over the tree.

A failed probe ends there (`bind` does not go on), unless its result is taken by `attempt`. A
probe that overflows stops the whole program: nothing takes that for a result.
-/

namespace RemoteStack

/-- A computation that looks into the memory of a process. -/
inductive Probe (α : Type) where
  /-- The probe has its result. -/
  | done (value : α)
  /-- The probe has failed. -/
  | failed (error : DecodeError)
  /-- A number grew beyond a machine word, and the program stops. -/
  | overflow
  /-- An event is reported. -/
  | report (event : Log.Event) (rest : Probe α)
  /-- Bytes are asked for. -/
  | ask (address : Address) (length : Nat) (rest : Except AccessError Bytes → Probe α)

namespace Probe

/-- The first probe, and then the one that its result leads to. -/
def bind {α β : Type} (probe : Probe α) (next : α → Probe β) : Probe β :=
  match probe with
  | .done value => next value
  | .failed error => .failed error
  | .overflow => .overflow
  | .report event rest => .report event (rest.bind next)
  | .ask address length rest => .ask address length fun answer => (rest answer).bind next

instance : Monad Probe where
  pure := .done
  bind := bind

@[simp] theorem pure_eq {α : Type} (value : α) : (pure value : Probe α) = .done value := rfl

@[simp] theorem bind_eq {α β : Type} (probe : Probe α) (next : α → Probe β) :
    (probe >>= next) = probe.bind next := rfl

@[simp] theorem done_bind {α β : Type} (value : α) (next : α → Probe β) :
    (done value).bind next = next value := rfl

@[simp] theorem failed_bind {α β : Type} (error : DecodeError) (next : α → Probe β) :
    (failed error).bind next = failed error := rfl

@[simp] theorem overflow_bind {α β : Type} (next : α → Probe β) :
    (overflow : Probe α).bind next = overflow := rfl

@[simp] theorem report_bind {α β : Type} (event : Log.Event) (rest : Probe α)
    (next : α → Probe β) : (report event rest).bind next = report event (rest.bind next) := rfl

@[simp] theorem ask_bind {α β : Type} (address : Address) (length : Nat)
    (rest : Except AccessError Bytes → Probe α) (next : α → Probe β) :
    (ask address length rest).bind next
      = ask address length fun answer => (rest answer).bind next := rfl

@[simp] theorem bind_done {α : Type} (probe : Probe α) : probe.bind done = probe := by
  induction probe with
  | done | failed | overflow => rfl
  | report event rest ih => rw [report_bind, ih]
  | ask address length rest ih => simp only [ask_bind, ih]

theorem bind_assoc {α β γ : Type} (probe : Probe α) (next : α → Probe β) (last : β → Probe γ) :
    (probe.bind next).bind last = probe.bind fun value => (next value).bind last := by
  induction probe with
  | done | failed | overflow => rfl
  | report event rest ih => simp only [report_bind, ih]
  | ask address length rest ih => simp only [ask_bind, ih]

instance : LawfulMonad Probe :=
  LawfulMonad.mk' Probe (fun probe => bind_done probe) (fun _ _ => rfl) bind_assoc

/-! ## Failures as results -/

/-- The probe of a result that was found without looking into memory. -/
def ofExcept {α : Type} : Except DecodeError α → Probe α
  | .ok value => .done value
  | .error error => .failed error

/-- The probe with its failure as a result. -/
def attempt {α : Type} : Probe α → Probe (Except DecodeError α)
  | .done value => .done (.ok value)
  | .failed error => .done (.error error)
  | .overflow => .overflow
  | .report event rest => .report event rest.attempt
  | .ask address length rest => .ask address length fun answer => (rest answer).attempt

/-! ## Single steps -/

def reportAll : List Log.Event → Probe Unit
  | [] => .done ()
  | event :: rest => .report event (reportAll rest)

/-- Reports an event that only the finest log shows. -/
def trace (message : String) : Probe Unit := .report ⟨.trace, message⟩ (.done ())

/-- Reports an event for those who look for errors. -/
def debug (message : String) : Probe Unit := .report ⟨.debug, message⟩ (.done ())

/-- Reports what the program is doing. -/
def info (message : String) : Probe Unit := .report ⟨.info, message⟩ (.done ())

/-- Reports that something was left out. -/
def warn (message : String) : Probe Unit := .report ⟨.warn, message⟩ (.done ())

/-- Asks once for bytes, and takes the answer as it is. -/
def answer (address : Address) (length : Nat) : Probe (Except AccessError Bytes) :=
  .ask address length .done

/-- Asks once for bytes, of which fewer may arrive. -/
def readUpTo (address : Address) (length : Nat) (context : String) : Probe Bytes :=
  .ask address length fun
    | .ok bytes => .done bytes
    | .error source => .failed (.unreadableMemory address length context source)

/-- Asks once for bytes, all of which have to arrive. -/
def readExactly (address : Address) (length : Nat) (context : String) : Probe Bytes := do
  let bytes ← readUpTo address length context
  if bytes.length < length then
    .failed (.truncatedRead address length bytes.length context)
  else return bytes

end Probe

end RemoteStack
