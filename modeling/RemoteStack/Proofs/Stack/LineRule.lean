import RemoteStack.Proofs.Encoding.StoredFrame
import RemoteStack.Proofs.Stack.CodeRule

/-!
# The rule of lines

Which fields decide the line of a frame, as relations that follow the reads of a position one by
one, with the requests that it makes:

* **names** — unknown without a read where there is none, and otherwise the text
  (`Resolver.NameRule`);
* **lines** — from the frame if it is traced, and otherwise from the code object alone or from
  its table (`Resolver.LineRule`);
* **positions** — `Resolver.PositionRule`, which is what a position is found by
  (`Resolver.gives_position_iff`).

The memory is any that answers with no more than it is asked for. Only a longer answer could give a
last instruction beyond 32 bits, and make a frame that has started one on its first line.
-/

namespace RemoteStack

open Probe

namespace Resolver

variable {resolver : Resolver} {memory : Memory} {served : Nat} {frame object : Address}
  {code : Code} {name : String} {line : Nat} {source : LineSource} {position : Position}
  {made : List Request}

/-! ## Names -/

/-- A name that is not there is unknown without a read, and any other is the text. -/
inductive NameRule (resolver : Resolver) (memory : Memory) (served : Nat) (object : Address) :
    String → List Request → Prop
  | unknown (null : object.isNull) : NameRule resolver memory served object unknownName []
  | decoded {text : String} {made : List Request} (nonNull : ¬object.isNull)
      (htext : (resolver.reader.text object).Gives memory served (some text) made) :
      NameRule resolver memory served object text made

/-- A name is found by its rule. -/
theorem gives_nameOr_iff :
    (resolver.nameOr object).Gives memory served name made ↔
      resolver.NameRule memory served object name made := by
  unfold nameOr
  simp only [bind_eq, pure_eq]
  constructor
  · intro given
    obtain ⟨found, _, _, htext, hname, rfl⟩ := gives_bind_iff.1 given
    obtain ⟨rfl, rfl⟩ := gives_done_iff.1 hname
    rw [List.append_nil]
    cases found with
    | none =>
      obtain ⟨null, rfl⟩ := Reader.text_found.gives_none_iff.1 htext
      exact .unknown null
    | some text => exact .decoded (Reader.text_found.nonNull_of_some htext) htext
  · intro rule
    cases rule with
    | unknown null =>
      exact (Reader.text_found.gives_none null).bind_unread (gives_done_iff.2 ⟨rfl, rfl⟩)
    | decoded _ htext => exact htext.bind_unread (gives_done_iff.2 ⟨rfl, rfl⟩)

/-! ## Lines -/

/-- No trace function is set in the frame, which was read, and then its last instruction. -/
structure Untraced (resolver : Resolver) (memory : Memory) (served : Nat) (frame : Address)
    (last : Int) (first second : Request) : Prop where
  tracer : ∃ tracer, tracer.isNull ∧
    (resolver.reader.address frame .frame "f_trace").Gives memory served tracer [first]
  last : (resolver.reader.integer frame .frame "f_lasti").Gives memory (served + 1) last [second]

/-- The line is that of the frame while a trace function is set. Otherwise the frame is not asked
for it: the line is the first of the code where no instruction has run or there is no table, and
else that of the last instruction in the table. -/
inductive LineRule (resolver : Resolver) (memory : Memory) (served : Nat) (frame : Address)
    (code : Code) : Nat → LineSource → List Request → Prop
  | traced {tracer : Address} {line : Int} {first second : Request}
      (htracer : (resolver.reader.address frame .frame "f_trace").Gives memory served tracer
        [first])
      (set : ¬tracer.isNull)
      (hline : (resolver.reader.integer frame .frame "f_lineno").Gives memory (served + 1) line
        [second]) :
      LineRule resolver memory served frame code (clampLine line) .traced [first, second]
  | notStarted {last : Int} {first second : Request}
      (untraced : resolver.Untraced memory served frame last first second) (negative : last < 0) :
      LineRule resolver memory served frame code (clampLine code.firstLine) .firstLine
        [first, second]
  | noTable {last : Int} {first second : Request}
      (untraced : resolver.Untraced memory served frame last first second) (started : 0 ≤ last)
      (null : code.lineTable.isNull) :
      LineRule resolver memory served frame code (clampLine code.firstLine) .firstLine
        [first, second]
  | table {last : Int} {table : Bytes} {first second : Request} {later : List Request}
      (untraced : resolver.Untraced memory served frame last first second) (started : 0 ≤ last)
      (nonNull : ¬code.lineTable.isNull)
      (htable : (resolver.reader.byteString code.lineTable).Gives memory (served + 2) (some table)
        later) :
      LineRule resolver memory served frame code
        (resolver.lineTable table (clampLine code.firstLine) last.toNat) .lineTable
        (first :: second :: later)

/-- Once an instruction has run, the line is of the table if there is one. -/
theorem gives_lineOfTable_iff {firstLine last : Nat} {table : Address} :
    ((resolver.reader.byteString table).bind fun
        | some bytes => done (resolver.lineTable bytes firstLine last, LineSource.lineTable)
        | none => done (firstLine, .firstLine)).Gives memory served (line, source) made ↔
      (table.isNull ∧ line = firstLine ∧ source = .firstLine ∧ made = []) ∨
        ∃ bytes, ¬table.isNull ∧
          (resolver.reader.byteString table).Gives memory served (some bytes) made ∧
          line = resolver.lineTable bytes firstLine last ∧ source = .lineTable := by
  constructor
  · intro given
    obtain ⟨found, _, _, htable, hline, rfl⟩ := gives_bind_iff.1 given
    cases found with
    | none =>
      obtain ⟨null, rfl⟩ := Reader.byteString_found.gives_none_iff.1 htable
      obtain ⟨hfound, rfl⟩ := gives_done_iff.1 hline
      obtain ⟨rfl, rfl⟩ := Prod.mk.inj hfound
      exact .inl ⟨null, rfl, rfl, rfl⟩
    | some bytes =>
      obtain ⟨hfound, rfl⟩ := gives_done_iff.1 hline
      obtain ⟨rfl, rfl⟩ := Prod.mk.inj hfound
      rw [List.append_nil]
      exact .inr ⟨bytes, Reader.byteString_found.nonNull_of_some htable, htable, rfl, rfl⟩
  · rintro (⟨null, rfl, rfl, rfl⟩ | ⟨bytes, _, htable, rfl, rfl⟩)
    · exact (Reader.byteString_found.gives_none null).bind_unread (gives_done_iff.2 ⟨rfl, rfl⟩)
    · exact htable.bind_unread (gives_done_iff.2 ⟨rfl, rfl⟩)

/-- What follows in a frame without a trace function comes behind two reads. -/
theorem Untraced.bind {α : Type} {last : Int} {first second : Request} {rest : List Request}
    {next : Address → Probe α} {later : Int → Probe α} {value : α}
    (h : resolver.Untraced memory served frame last first second)
    (hnext : ∀ tracer, tracer.isNull →
      next tracer = (resolver.reader.integer frame .frame "f_lasti").bind later)
    (given : (later last).Gives memory (served + 2) value rest) :
    ((resolver.reader.address frame .frame "f_trace").bind next).Gives memory served value
      (first :: second :: rest) := by
  obtain ⟨tracer, null, htracer⟩ := h.tracer
  apply htracer.bind
  rw [hnext tracer null]
  exact h.last.bind given

/-- A line is found by its rule, on a memory that answers with no more than it is asked for. -/
theorem gives_currentLine_iff (covers : resolver.reader.Covers) (nonNull : ¬frame.isNull)
    (measured : memory.Measured) :
    (resolver.currentLine frame code).Gives memory served (line, source) made ↔
      resolver.LineRule memory served frame code line source made := by
  have declaredTracer : resolver.reader.Declares .frame (.pointer "f_trace") :=
    covers.declared (Reader.mem_of_common (by decide))
  have declaredLine : resolver.reader.Declares .frame (.int "f_lineno") :=
    covers.declared (Reader.mem_of_common (by decide))
  have declaredLast : resolver.reader.Declares .frame (.int "f_lasti") :=
    covers.declared (Reader.mem_of_common (by decide))
  -- the guard against instructions beyond 32 bits is for numbers that no answer holds
  have inRange {last : Int} {second : Request}
      (hlast : (resolver.reader.integer frame .frame "f_lasti").Gives memory (served + 1) last
        [second]) : last ≤ lineMax :=
    le_lineMax (declaredLast.fits_of_gives nonNull measured hlast)
  unfold currentLine
  simp only [bind_eq, pure_eq]
  constructor
  · intro given
    obtain ⟨tracer, first, rest, htracer, hrest, rfl⟩ :=
      (declaredTracer.gives_address_bind_iff nonNull).1 given
    by_cases unset : tracer.isNull
    · rw [if_neg (by simpa using unset)] at hrest
      obtain ⟨last, second, later, hlast, hlater, rfl⟩ :=
        (declaredLast.gives_integer_bind_iff nonNull).1 hrest
      have untraced : resolver.Untraced memory served frame last first second :=
        ⟨⟨tracer, unset, htracer⟩, hlast⟩
      have small := inRange hlast
      by_cases negative : last < 0
      · rw [if_pos (by simp [negative]), gives_done_iff] at hlater
        obtain ⟨hfound, rfl⟩ := hlater
        obtain ⟨rfl, rfl⟩ := Prod.mk.inj hfound
        exact .notStarted untraced negative
      · have started : 0 ≤ last := by omega
        rw [if_neg (by simp; omega)] at hlater
        rcases gives_lineOfTable_iff.1 hlater with
          ⟨null, rfl, rfl, rfl⟩ | ⟨bytes, some, htable, rfl, rfl⟩
        · exact .noTable untraced started null
        · exact .table untraced started some htable
    · rw [if_pos (by simpa using unset)] at hrest
      obtain ⟨line, second, later, hline, hlater, rfl⟩ :=
        (declaredLine.gives_integer_bind_iff nonNull).1 hrest
      obtain ⟨hfound, rfl⟩ := gives_done_iff.1 hlater
      obtain ⟨rfl, rfl⟩ := Prod.mk.inj hfound
      exact .traced htracer unset hline
  · intro rule
    have unset (tracer : Address) (null : tracer.isNull) : ¬(!tracer.isNull) = true := by
      simpa using null
    cases rule with
    | traced htracer set hline =>
      apply htracer.bind
      rw [if_pos (by simpa using set)]
      exact hline.bind (gives_done_iff.2 ⟨rfl, rfl⟩)
    | notStarted untraced negative =>
      apply untraced.bind fun tracer null => if_neg (unset tracer null)
      rw [if_pos (by simp [negative])]
      exact gives_done_iff.2 ⟨rfl, rfl⟩
    | noTable untraced started null =>
      have small := inRange untraced.last
      apply untraced.bind fun tracer null => if_neg (unset tracer null)
      rw [if_neg (by simp; omega)]
      exact gives_lineOfTable_iff.2 (.inl ⟨null, rfl, rfl, rfl⟩)
    | table untraced started some htable =>
      have small := inRange untraced.last
      apply untraced.bind fun tracer null => if_neg (unset tracer null)
      rw [if_neg (by simp; omega)]
      exact gives_lineOfTable_iff.2 (.inr ⟨_, some, htable, rfl, rfl⟩)

/-! ## Positions -/

/-- A frame without a code object has no names, and the line that it keeps itself. Any other has
the names of its code object, and the line by its own rule. -/
inductive PositionRule (resolver : Resolver) (memory : Memory) (served : Nat) (frame : Address) :
    Position → List Request → Prop
  | noCode {address : Address} {line : Int} {first second : Request}
      (haddress : (resolver.reader.address frame .frame "f_code").Gives memory served address
        [first])
      (null : address.isNull)
      (hline : (resolver.reader.integer frame .frame "f_lineno").Gives memory (served + 1) line
        [second]) :
      PositionRule resolver memory served frame
        ⟨unknownName, unknownName, clampLine line, .unknown⟩ [first, second]
  | code {address : Address} {code : Code} {function file : String} {line : Nat}
      {source : LineSource} {first : Request}
      {codeReads functionReads fileReads lineReads : List Request}
      (haddress : (resolver.reader.address frame .frame "f_code").Gives memory served address
        [first])
      (nonNull : ¬address.isNull)
      (hcode : resolver.reader.CodeRule memory (served + 1) address code codeReads)
      (hfunction : resolver.NameRule memory (served + 1 + codeReads.length) code.name function
        functionReads)
      (hfile : resolver.NameRule memory (served + 1 + codeReads.length + functionReads.length)
        code.filename file fileReads)
      (hline : resolver.LineRule memory
        (served + 1 + codeReads.length + functionReads.length + fileReads.length) frame code line
        source lineReads) :
      PositionRule resolver memory served frame ⟨function, file, line, source⟩
        (first :: (codeReads ++ (functionReads ++ (fileReads ++ lineReads))))

/-- A position is found by its rule. -/
theorem gives_position_iff (covers : resolver.reader.Covers) (nonNull : ¬frame.isNull)
    (measured : memory.Measured) :
    (resolver.position frame).Gives memory served position made ↔
      resolver.PositionRule memory served frame position made := by
  have declaredCode : resolver.reader.Declares .frame (.pointer "f_code") :=
    covers.declared (Reader.mem_of_common (by decide))
  have declaredLine : resolver.reader.Declares .frame (.int "f_lineno") :=
    covers.declared (Reader.mem_of_common (by decide))
  unfold Resolver.position
  simp only [bind_eq, pure_eq]
  constructor
  · intro given
    obtain ⟨address, first, rest, haddress, hrest, rfl⟩ :=
      (declaredCode.gives_address_bind_iff nonNull).1 given
    by_cases null : address.isNull
    · rw [if_pos null] at hrest
      obtain ⟨line, second, later, hline, hlater, rfl⟩ :=
        (declaredLine.gives_integer_bind_iff nonNull).1 hrest
      obtain ⟨rfl, rfl⟩ := gives_done_iff.1 hlater
      exact .noCode haddress null hline
    · rw [if_neg null] at hrest
      simp only [gives_bind_iff] at hrest
      obtain ⟨code, codeReads, _, hcode, ⟨function, functionReads, _, hfunction,
        ⟨file, fileReads, _, hfile, ⟨⟨line, source⟩, lineReads, _, hline,
          ⟨_, _, _, htrace, hdone, rfl⟩, rfl⟩, rfl⟩, rfl⟩, rfl⟩ := hrest
      obtain ⟨_, rfl⟩ := gives_done_iff.1 (gives_report_iff.1 htrace)
      obtain ⟨rfl, rfl⟩ := gives_done_iff.1 hdone
      rw [List.nil_append, List.append_nil]
      exact .code haddress null ((Reader.gives_code_iff covers null).1 hcode)
        (gives_nameOr_iff.1 hfunction) (gives_nameOr_iff.1 hfile)
        ((gives_currentLine_iff covers nonNull measured).1 hline)
  · intro rule
    cases rule with
    | noCode haddress null hline =>
      apply haddress.bind
      rw [if_pos null]
      exact hline.bind (gives_done_iff.2 ⟨rfl, rfl⟩)
    | code haddress some hcode hfunction hfile hline =>
      apply haddress.bind
      rw [if_neg some]
      apply ((Reader.gives_code_iff covers some).2 hcode).bind
      apply (gives_nameOr_iff.2 hfunction).bind
      apply (gives_nameOr_iff.2 hfile).bind
      exact ((gives_currentLine_iff covers nonNull measured).2 hline).bind_unread
        (gives_report_iff.2 (gives_done_iff.2 ⟨rfl, rfl⟩))

end Resolver

end RemoteStack
