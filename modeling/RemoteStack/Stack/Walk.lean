import RemoteStack.Stack.Frame

/-!
# Walks

A `Walk` follows the links from a frame to its callers. `Walk.pull` decodes one frame,
before the next link is followed; so whoever stops pulling leaves the rest unread. A walk
ends after the frame without a caller, and it ends with a failure

* if a frame cannot be decoded,
* if a link leads back to a frame of the walk (`ChainFault.cycle`), or
* if the chain goes on after `maxDepth` frames (`ChainFault.depthExceeded`).

After its end a walk yields nothing and reads nothing. `Walk.take` pulls a number of times
and `Walk.stack` to the end.
-/

namespace RemoteStack

structure Walk where
  resolver : Resolver
  /-- How many frames may be decoded. -/
  maxDepth : Nat
  /-- The frame to decode next; null at the end of the chain. -/
  next : Address
  /-- The frames decoded so far, last first. -/
  visited : List Address := []
  /-- The walk has failed. -/
  isFinished : Bool := false

namespace Walk

def depth (walk : Walk) : Nat := walk.visited.length

def decode (walk : Walk) : Probe Frame := do
  let previous ← walk.resolver.reader.address walk.next .frame "f_back"
  let position ← walk.resolver.position walk.next
  return {
    index := walk.depth
    address := walk.next
    function := position.function
    file := position.file
    line := position.line
    lineSource := position.lineSource
    previous := previous.nonNull? }

/-- What a walk yields when it is pulled: a frame, its failure, or nothing. -/
abbrev Item : Type := Option (Except DecodeError Frame)

/-- Ends the walk with a failure. -/
def stop (walk : Walk) (error : DecodeError) : Probe (Item × Walk) := do
  Probe.debug s!"frame walk stopped after {walk.depth} frames: {error.message}"
  return (some (.error error), { walk with isFinished := true })

def advance (walk : Walk) (frame : Frame) : Walk :=
  { walk with next := frame.previous.getD .null, visited := walk.next :: walk.visited }

def pull (walk : Walk) : Probe (Item × Walk) := do
  if walk.isFinished || walk.next.isNull then return (none, walk)
  if walk.maxDepth ≤ walk.depth then
    walk.stop (.corruptedChain walk.next walk.depth .depthExceeded)
  else if walk.visited.contains walk.next then
    walk.stop (.corruptedChain walk.next walk.depth .cycle)
  else
    match ← walk.decode.attempt with
    | .ok frame => return (some (.ok frame), walk.advance frame)
    | .error error => walk.stop error

/-- Pulls at most `count` items after the frames pulled before, of which the last stands
first, and stops at the end of the walk. -/
def takeOnto (frames : List Frame) (walk : Walk) : Nat → Probe Stack
  | 0 => return ⟨frames.reverse, none⟩
  | count + 1 => do
    let (item, walk) ← walk.pull
    match item with
    | none => return ⟨frames.reverse, none⟩
    | some (.error error) => return ⟨frames.reverse, some error⟩
    | some (.ok frame) => takeOnto (frame :: frames) walk count

/-- Pulls at most `count` items, and stops at the end of the walk. -/
def take (walk : Walk) (count : Nat) : Probe Stack := takeOnto [] walk count

theorem takeOnto_eq_bind (frames : List Frame) (walk : Walk) (count : Nat) :
    takeOnto frames walk count = (walk.take count).bind fun stack =>
      .done { stack with frames := frames.reverse ++ stack.frames } := by
  unfold take
  induction count generalizing frames walk with
  | zero => simp [takeOnto]
  | succ count ih =>
    simp only [takeOnto, Probe.bind_eq, Probe.pure_eq, Probe.bind_assoc]
    congr 1
    funext pulled
    match pulled with
    | (none, _) | (some (.error _), _) => simp
    | (some (.ok frame), next) =>
      simp only [ih (frame :: frames), ih [frame], Probe.bind_assoc, Probe.done_bind,
        List.reverse_cons, List.reverse_nil, List.nil_append, List.append_assoc]

@[simp] theorem take_zero (walk : Walk) : walk.take 0 = .done ⟨[], none⟩ := rfl

/-- To take items is to pull one and to take the others after it. -/
theorem take_succ (walk : Walk) (count : Nat) :
    walk.take (count + 1) = walk.pull.bind fun pulled =>
      match pulled.1 with
      | none => .done ⟨[], none⟩
      | some (.error error) => .done ⟨[], some error⟩
      | some (.ok frame) => (pulled.2.take count).bind fun stack =>
        .done { stack with frames := frame :: stack.frames } := by
  simp only [take, takeOnto, Probe.bind_eq, Probe.pure_eq]
  congr 1
  funext pulled
  match pulled with
  | (none, _) | (some (.error _), _) => rfl
  | (some (.ok frame), next) => exact takeOnto_eq_bind [frame] next count

/-- Pulls to the end. Beyond `maxDepth` frames there is at most a failure. -/
def stack (walk : Walk) : Probe Stack := walk.take (walk.maxDepth + 1)

end Walk

end RemoteStack
