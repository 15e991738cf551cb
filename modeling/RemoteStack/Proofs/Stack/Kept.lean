import RemoteStack.Proofs.Memory.Region
import RemoteStack.Proofs.Stack.ThreadList

/-!
# What captures keep

A decoder is prepared without a read, and what its captures decode is kept:

* **thread** — a capture is the state of a thread and the stack of the walk from its innermost
  frame, however that walk ended;
* **process** — a capture of a process has the captures of the threads of its list, however that
  list ended;
* **overflow** — only a program that stops keeps nothing. It does so where the name of a frame has
  more units than a word can count the bytes of (`UncountedName`), and the limit allows them.

`Decoder.captures_keep` says all of this for any memory.
-/

namespace RemoteStack

namespace Decoder

/-- Layouts that are there are found without a read. -/
theorem run_checkLayouts {reader : Reader} {kinds : List ObjectKind}
    (found : ∀ kind ∈ kinds, ∃ layout, reader.catalog.layoutFor kind reader.version = .ok layout)
    (memory : Memory) (served : Nat) :
    ((checkLayouts reader kinds).run memory served).outcome = .ok () ∧
      ((checkLayouts reader kinds).run memory served).requests = [] := by
  induction kinds with
  | nil => exact ⟨rfl, rfl⟩
  | cons kind rest ih =>
    obtain ⟨layout, hlayout⟩ := found kind List.mem_cons_self
    simp only [checkLayouts, Reader.layout, Probe.bind_eq, Probe.bind_assoc, hlayout,
      Probe.ofExcept, Probe.done_bind]
    rw [(Probe.run_reportAll_bind _ _).1, (Probe.run_reportAll_bind _ _).2]
    exact ih fun kind mem => found kind (List.mem_cons_of_mem _ mem)

/-- A capture needs no layout but of the kinds whose fields it reads. -/
theorem exists_layout_of_needed {version : Version} {kind : ObjectKind}
    (mem : kind ∈ neededKinds version) :
    ∃ layout, Catalog.builtin.layoutFor kind version = .ok layout := by
  have read : kind ∈ (Catalog.captureFields version.family).map Prod.fst := by
    unfold neededKinds Version.textKind Version.lineTableKind at mem
    -- what a version needs and what it reads both depend on its family alone
    generalize version.family = family at mem ⊢
    revert kind
    cases family <;> decide
  obtain ⟨⟨readKind, decl⟩, hdecl, rfl⟩ := List.mem_map.1 read
  obtain ⟨layout, _, hlayout, _⟩ :=
    Catalog.exists_field ((Catalog.builtin_covers version).declares readKind decl hdecl)
  exact ⟨layout, hlayout⟩

/-- A decoder is prepared for any version without a read. -/
theorem run_prepare (version : Version) (memory : Memory) (served : Nat) :
    ((prepare version).run memory served).outcome = .ok { version } ∧
      ((prepare version).run memory served).requests = [] := by
  let reader : Reader := { version, limits := {} }
  have prepared : prepare version = (checkLayouts reader (neededKinds version)).bind fun _ =>
      .report ⟨.debug, s!"stack decoder ready for {version.text}"⟩ (.done { version }) := rfl
  have layouts : ∀ kind ∈ neededKinds version,
      ∃ layout, reader.catalog.layoutFor kind reader.version = .ok layout :=
    fun kind mem => exists_layout_of_needed mem
  obtain ⟨found, silent⟩ := run_checkLayouts layouts memory served
  rw [prepared, Probe.outcome_bind_of_ok found, Probe.requests_bind_of_ok found, silent]
  exact ⟨rfl, rfl⟩

/-- A decoder of a version is prepared without a read, and none of its captures discards what
it has decoded, unless the program stops as a text overflows. A capture of a process keeps the
captures of all threads of the list before its end. A capture of a thread keeps the frames of its
walk before their end, and fails just where the state of the thread is null or cannot be read. -/
theorem captures_keep (version : Version) (limits : Limits) (lineTable : LineTable)
    (memory : Memory) (served : Nat) :
    let decoder : Decoder := ⟨version, limits, lineTable⟩
    ((prepare version).run memory served).outcome = .ok { version } ∧
    ((prepare version).run memory served).requests = [] ∧
    (∀ head,
      let run := (decoder.captureAll head).run memory served
      (∃ snapshot, run.outcome = .ok snapshot ∧
        decoder.ListTrace memory served [] head snapshot run.requests ∧
        snapshot.KeepsFailures) ∨
      decoder.reader.OverflowsOn memory ∧ run.outcome = .overflow) ∧
    ∀ address,
      let read := (decoder.reader.threadState address).run memory served
      match ((decoder.capture address).run memory served).outcome with
      | .ok snapshot => ¬address.isNull ∧ snapshot.toStack.KeepsFailure ∧
        ∃ state requests, read.outcome = .ok state ∧
          (decoder.walk state.frame).Yields memory (served + read.requests.length)
            snapshot.toStack requests
      | .error (.nullObject _) => address.isNull
      | .error error => ¬address.isNull ∧ error.IsLocal ∧ read.outcome = .error error
      | .overflow => decoder.reader.OverflowsOn memory := by
  intro decoder
  obtain ⟨prepared, silent⟩ := run_prepare version memory served
  refine ⟨prepared, silent, ?_, ?_⟩
  · intro head run
    rcases decoder.captureAll_trace_or_overflow memory served head with
      ⟨snapshot, requests, t, outcome, rfl⟩ | ⟨text, broken⟩
    · exact .inl ⟨snapshot, outcome, t, (decoder.captureAll_ensures head).of_ok outcome⟩
    · exact .inr ⟨text, broken⟩
  · intro address read
    by_cases null : address.isNull
    · rw [capture_null decoder null]
      exact null
    cases hstate : read.outcome with
    | error error =>
      have hlocal := decoder.isLocal_of_unread null hstate
      have failed : ((decoder.capture address).run memory served).outcome = .error error :=
        Probe.outcome_bind_of_error hstate
      rw [failed]
      cases error with
      | nullObject => exact hlocal.elim
      | _ => exact ⟨null, hlocal, rfl⟩
    | overflow => exact absurd hstate (decoder.threadState_ne_overflow address memory served)
    | ok state =>
      rcases capture_trace_or_broken hstate with
        ⟨stack, requests, t, outcome, _⟩ | ⟨_, _, _, broken, _⟩
      · have kept := (decoder.capture_ensures null).of_ok outcome
        rw [outcome]
        exact ⟨null, kept, state, requests, rfl, t.yields decoder.covers⟩
      · rw [broken]
        exact overflowsOn_of_capture broken

/-- Two threads of 2.7. The caller of the frame of the first was not captured, and the state of a
third thread was not either: each costs itself and what lies behind it. -/
example :
    let decoder : Decoder :=
      { version := ⟨⟨2, 7⟩, .python2, ⟨.eight, .lp64⟩, by decide, by decide⟩ }
    let zeros (count : Nat) : Bytes := List.replicate count 0
    let head : Address := .ofNat 0x1000
    let image := MemoryImage.ofRegions [
      ⟨head, [0, 0x30] ++ zeros 15 ++ [0x20] ++ zeros 200⟩,
      ⟨.ofNat 0x2000, zeros 25 ++ [0x50] ++ zeros 400⟩,
      ⟨.ofNat 0x3000, [0, 0x40] ++ zeros 200⟩]
    ((decoder.captureAll head).run (.ofImage image) 0).outcome = .ok {
      threads := [
        ⟨⟨[⟨0, .ofNat 0x2000, "<unknown>", "<unknown>", 0, .unknown, some (.ofNat 0x5000)⟩],
          some (.unreadableMemory (.ofNat 0x5018) 8 "frame.f_back"
            (.unmapped (.ofNat 0x5018)))⟩, ⟨0⟩, head⟩,
        ⟨⟨[], none⟩, ⟨0⟩, .ofNat 0x3000⟩]
      error := some (.unreadableMemory (.ofNat 0x4090) 8 "threadstate.thread_id"
        (.unmapped (.ofNat 0x4090))) } := by
  decide +kernel

end Decoder

/-! ## A name that a word cannot count -/

namespace UncountedName

/-- A decoder of 3.1 that leaves texts as long as a word can say. -/
def decoder : Decoder where
  version := ⟨⟨3, 1⟩, .python3, ⟨.eight, .lp64⟩, by decide, by decide⟩
  limits := { maxStringLength := UInt64.size - 1 }

/-- The address of the state of the thread. -/
def thread : Address := .ofNat 0x1000

def zeros (count : Nat) : Bytes := List.replicate count 0

/-- A thread in one frame, without the name of its code. -/
def unnamed : List Region := [
  ⟨thread, zeros 17 ++ [0x20] ++ zeros 134⟩,
  ⟨.ofNat 0x2000, zeros 33 ++ [0x30] ++ zeros 350⟩,
  ⟨.ofNat 0x3000, zeros 97 ++ [0x40] ++ zeros 30⟩]

/-- The name: an object that claims 2^62 + 1 units of four bytes, and the three units that there
are. -/
def name : List Region := [
  ⟨.ofNat 0x4000, zeros 16 ++ [1] ++ zeros 6 ++ [0x40, 0, 0x50] ++ zeros 14⟩,
  ⟨.ofNat 0x5000, [97, 0, 0, 0, 98, 0, 0, 0, 99, 0, 0, 0]⟩]

def image : MemoryImage := .ofRegions (unnamed ++ name)

end UncountedName

/-- A capture of a process has no result where the name of a frame overflows. -/
theorem Decoder.captureAll_stopped_by_name :
    ¬∀ (decoder : Decoder) (memory : Memory) (served : Nat) (head : Address),
      ∃ snapshot, ((decoder.captureAll head).run memory served).outcome = .ok snapshot := by
  intro kept
  obtain ⟨snapshot, captured⟩ :=
    kept UncountedName.decoder (.ofImage UncountedName.image) 0 UncountedName.thread
  have stopped : ((UncountedName.decoder.captureAll UncountedName.thread).run
      (.ofImage UncountedName.image) 0).outcome = .overflow := by
    decide +kernel
  rw [stopped] at captured
  cases captured

end RemoteStack
