import RemoteStack.Probe.Run

/-!
# Probes of still images

An image that does not change answers a read in the same way however often it is asked, so
what comes of a probe is a function of the image alone: `Probe.on`. It is the outcome of each
run on the image (`outcome_ofImage`), and it is found part by part (`on_bind_of_ok`,
`on_bind_eq_ok_iff`). So are
the reads that the probe makes (`Probe.readsOn`, `requests_ofImage`).
-/

namespace RemoteStack.Probe

variable {α β : Type} {image : MemoryImage}

/-- What comes of the probe on an image. -/
def on (image : MemoryImage) : Probe α → Outcome α
  | .done value => .ok value
  | .failed error => .error error
  | .overflow => .overflow
  | .report _ rest => rest.on image
  | .ask address length rest => (rest (image.read address length)).on image

theorem outcome_ofImage (probe : Probe α) (image : MemoryImage) (served : Nat) :
    (probe.run (.ofImage image) served).outcome = probe.on image := by
  induction probe generalizing served with
  | done | failed | overflow => rfl
  | report event rest ih => exact ih served
  | ask address length rest ih => exact ih _ (served + 1)

/-- On an image it does not matter how many reads came before. -/
theorem run_ofImage (probe : Probe α) (image : MemoryImage) (first second : Nat) :
    probe.run (.ofImage image) first = probe.run (.ofImage image) second := by
  induction probe generalizing first second with
  | done | failed | overflow => rfl
  | report event rest ih => simp only [run, ih first second]
  | ask address length rest ih =>
    have answered : Memory.ofImage image first = Memory.ofImage image second := rfl
    simp only [run, answered, ih _ (first + 1) (second + 1)]

/-- The reads that the probe makes on an image. -/
def readsOn (image : MemoryImage) (probe : Probe α) : List Request :=
  (probe.run (.ofImage image) 0).requests

theorem requests_ofImage (probe : Probe α) (image : MemoryImage) (served : Nat) :
    (probe.run (.ofImage image) served).requests = probe.readsOn image :=
  congrArg Run.requests (probe.run_ofImage image served 0)

@[simp] theorem on_done (value : α) : (done value).on image = .ok value := rfl

@[simp] theorem on_report (event : Log.Event) (rest : Probe α) :
    (report event rest).on image = rest.on image := rfl

@[simp] theorem on_ask (address : Address) (length : Nat)
    (rest : Except AccessError Bytes → Probe α) :
    (ask address length rest).on image = (rest (image.read address length)).on image := rfl

theorem on_bind_of_ok {probe : Probe α} {value : α} (h : probe.on image = .ok value)
    (next : α → Probe β) : (probe.bind next).on image = (next value).on image := by
  induction probe with
  | done =>
    cases h
    rfl
  | failed | overflow => cases h
  | report event rest ih => exact ih h
  | ask address length rest ih => exact ih _ h

/-- A probe that is followed by another has a result if both have one. -/
theorem on_bind_eq_ok_iff {probe : Probe α} {next : α → Probe β} {result : β} :
    (probe.bind next).on image = .ok result ↔
      ∃ value, probe.on image = .ok value ∧ (next value).on image = .ok result := by
  induction probe with
  | done value => simp
  | failed | overflow =>
    constructor
    · intro h
      cases h
    · rintro ⟨_, h, _⟩
      cases h
  | report event rest ih => exact ih
  | ask address length rest ih => exact ih _

@[simp] theorem on_attempt (probe : Probe α) :
    probe.attempt.on image = (probe.on image).attempt := by
  induction probe with
  | done | failed | overflow => rfl
  | report event rest ih => exact ih
  | ask address length rest ih => exact ih _

theorem on_attempt_of_ok {probe : Probe α} {value : α} (h : probe.on image = .ok value) :
    probe.attempt.on image = .ok (.ok value) := by
  rw [on_attempt, h]
  rfl

theorem on_reportAll (events : List Log.Event) : (reportAll events).on image = .ok () := by
  induction events with
  | nil => rfl
  | cons event rest ih => exact ih

theorem on_readUpTo {address : Address} {length : Nat} {bytes : Bytes}
    (h : image.read address length = .ok bytes) (context : String) :
    (readUpTo address length context).on image = .ok bytes := by
  unfold readUpTo
  rw [on_ask, h]
  rfl

theorem on_readUpTo_eq_ok_iff {address : Address} {length : Nat} {context : String}
    {bytes : Bytes} : (readUpTo address length context).on image = .ok bytes ↔
      image.read address length = .ok bytes := by
  unfold readUpTo
  rw [on_ask]
  cases image.read address length with
  | ok found => simp only [on_done, Outcome.ok.injEq, Except.ok.injEq]
  | error source =>
    constructor
    · intro h
      cases h
    · intro h
      cases h

theorem on_readExactly {address : Address} {length : Nat} {bytes : Bytes}
    (h : image.read address length = .ok bytes) (enough : length ≤ bytes.length)
    (context : String) : (readExactly address length context).on image = .ok bytes := by
  unfold readExactly
  simp only [bind_eq, pure_eq]
  rw [on_bind_of_ok (on_readUpTo h context), if_neg (Nat.not_lt.2 enough)]
  rfl

end RemoteStack.Probe
