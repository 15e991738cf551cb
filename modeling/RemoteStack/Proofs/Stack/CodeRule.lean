import RemoteStack.Proofs.Reader.Given
import RemoteStack.Stack.Position

/-!
# The reads of a code object

A code object is read field by field, in an order that its version settles:

* **pointers to texts and tables** — what they lead to is there just if the pointer is not null, and
  a null one takes no read (`Reader.FoundUnlessNull`);
* **fields** — `Reader.CodeRule`, which is what a code object is read by
  (`Reader.gives_code_iff`).
-/

namespace RemoteStack

open Probe

namespace Reader

variable {reader : Reader} {memory : Memory} {served : Nat} {object address : Address}
  {made : List Request}

/-! ## Texts and tables -/

/-- The probe finds nothing, without a read, if the object is null, and otherwise something, if it
has a result. -/
structure FoundUnlessNull {α : Type} (object : Address) (probe : Probe (Option α)) : Prop where
  ofNull : object.isNull → probe = .done none
  isSome : ¬object.isNull → probe.Ensures True (fun _ => True) (·.isSome)

namespace FoundUnlessNull

variable {α : Type} {probe : Probe (Option α)}

theorem gives_none (h : FoundUnlessNull object probe) (null : object.isNull) :
    probe.Gives memory served none [] := by
  rw [h.ofNull null]
  exact gives_done_iff.2 ⟨rfl, rfl⟩

theorem gives_none_iff (h : FoundUnlessNull object probe) :
    probe.Gives memory served none made ↔ object.isNull ∧ made = [] := by
  constructor
  · intro given
    by_cases null : object.isNull
    · rw [h.ofNull null, gives_done_iff] at given
      exact ⟨null, given.2⟩
    · exact absurd ((h.isSome null).of_ok given.outcome) Bool.false_ne_true
  · rintro ⟨null, rfl⟩
    exact h.gives_none null

theorem nonNull_of_some (h : FoundUnlessNull object probe) {value : α}
    (given : probe.Gives memory served (some value) made) : ¬object.isNull := by
  intro null
  rw [h.ofNull null, gives_done_iff] at given
  cases given.1

end FoundUnlessNull

theorem sizedChars_found (kind : ObjectKind) :
    FoundUnlessNull object (reader.sizedChars object kind) where
  ofNull null := by
    unfold sizedChars
    rw [if_pos null]
    rfl
  isSome nonNull := by
    unfold sizedChars
    simp only [bind_eq, pure_eq, if_neg nonNull]
    -- the number, its check, the layout and the place of the characters
    iterate 4
      apply ensures_bind_of_forall
      intro _
    split
    · rfl
    · exact ensures_bind_of_forall fun _ => rfl

theorem unicode_found : FoundUnlessNull object (reader.unicode object) where
  ofNull null := by
    unfold unicode
    rw [if_pos null]
    rfl
  isSome nonNull := by
    unfold unicode
    simp only [bind_eq, pure_eq, if_neg nonNull]
    -- the length, its check, and the pointer
    iterate 3
      apply ensures_bind_of_forall
      intro _
    split
    · rfl
    · apply ensures_bind_of_forall
      intro length
      exact ensures_bind_of_forall fun _ => rfl

theorem text_found : FoundUnlessNull object (reader.text object) := by
  unfold text
  cases reader.version.family with
  | python2 =>
    refine ⟨?_, ?_⟩
    · intro null
      rw [(sizedChars_found .string).ofNull null]
      rfl
    · intro nonNull
      apply ((sizedChars_found .string).isSome nonNull).bind
      intro chars some
      simpa using some
  | python3 => exact unicode_found

theorem byteString_found : FoundUnlessNull object (reader.byteString object) :=
  sizedChars_found reader.version.lineTableKind

/-! ## Code objects -/

/-- The keyword-only arguments are counted by a field that the 2.x releases lack. -/
inductive KeywordOnlyRule (reader : Reader) (memory : Memory) (served : Nat) (address : Address) :
    Option Int → List Request → Prop
  | classic (shape : reader.version.codeShape = .classic) :
      KeywordOnlyRule reader memory served address none []
  | keywordOnly {count : Int} {request : Request} (shape : reader.version.codeShape = .keywordOnly)
      (given : (reader.integer address .code "co_kwonlyargcount").Gives memory served count
        [request]) :
      KeywordOnlyRule reader memory served address (some count) [request]

/-- The fields of a code object are read one by one. -/
inductive CodeRule (reader : Reader) (memory : Memory) (served : Nat) (address : Address) :
    Code → List Request → Prop
  | fields {argCount firstLine : Int} {name filename lineTable : Address}
      {keywordOnly : Option Int} {first second third fourth fifth : Request}
      {later : List Request}
      (hargCount : (reader.integer address .code "co_argcount").Gives memory served argCount
        [first])
      (hname : (reader.address address .code "co_name").Gives memory (served + 1) name [second])
      (hfilename : (reader.address address .code "co_filename").Gives memory (served + 2) filename
        [third])
      (hfirstLine : (reader.integer address .code "co_firstlineno").Gives memory (served + 3)
        firstLine [fourth])
      (hlineTable : (reader.address address .code "co_lnotab").Gives memory (served + 4) lineTable
        [fifth])
      (hkeywordOnly : reader.KeywordOnlyRule memory (served + 5) address keywordOnly later) :
      CodeRule reader memory served address
        ⟨address, argCount, name, filename, firstLine, lineTable, keywordOnly⟩
        (first :: second :: third :: fourth :: fifth :: later)

/-- A code object in the shape that counts keyword-only arguments has the field. -/
theorem declares_keywordOnly (covers : reader.Covers)
    (shape : reader.version.codeShape = .keywordOnly) :
    reader.Declares .code (.int "co_kwonlyargcount") := by
  unfold Version.codeShape at shape
  cases family : reader.version.family with
  | python2 =>
    rw [family] at shape
    cases shape
  | python3 => exact covers.declared (mem_of_family family (by decide))

theorem gives_keywordOnly_iff (covers : reader.Covers) (nonNull : ¬address.isNull)
    (next : Option Int → Code) {code : Code} :
    (match reader.version.codeShape with
      | .classic => Probe.done (next none)
      | .keywordOnly => (reader.integer address .code "co_kwonlyargcount").bind fun count =>
        .done (next (some count))).Gives memory served code made ↔
      ∃ count, reader.KeywordOnlyRule memory served address count made ∧ code = next count := by
  cases shape : reader.version.codeShape with
  | classic =>
    constructor
    · intro given
      obtain ⟨rfl, rfl⟩ := gives_done_iff.1 given
      exact ⟨none, .classic shape, rfl⟩
    · rintro ⟨count, rule, rfl⟩
      cases rule with
      | classic => exact gives_done_iff.2 ⟨rfl, rfl⟩
      | keywordOnly other =>
        rw [shape] at other
        cases other
  | keywordOnly =>
    have declared := declares_keywordOnly covers shape
    constructor
    · intro read
      obtain ⟨count, request, _, given, done, rfl⟩ :=
        (declared.gives_integer_bind_iff nonNull).1 read
      obtain ⟨rfl, rfl⟩ := gives_done_iff.1 done
      exact ⟨some count, .keywordOnly shape given, rfl⟩
    · rintro ⟨count, rule, rfl⟩
      cases rule with
      | classic other =>
        rw [shape] at other
        cases other
      | keywordOnly _ given => exact given.bind (gives_done_iff.2 ⟨rfl, rfl⟩)

/-- A code object is read by its rule. -/
theorem gives_code_iff (covers : reader.Covers) (nonNull : ¬address.isNull) {code : Code} :
    (reader.code address).Gives memory served code made ↔
      reader.CodeRule memory served address code made := by
  have declared {decl : FieldDecl} (mem : (ObjectKind.code, decl) ∈ Catalog.commonFields) :
      reader.Declares .code decl := covers.declared (mem_of_common mem)
  have argCount : reader.Declares .code (.int "co_argcount") := declared (by decide)
  have name : reader.Declares .code (.pointer "co_name") := declared (by decide)
  have filename : reader.Declares .code (.pointer "co_filename") := declared (by decide)
  have firstLine : reader.Declares .code (.int "co_firstlineno") := declared (by decide)
  have lineTable : reader.Declares .code (.pointer "co_lnotab") := declared (by decide)
  unfold Reader.code
  simp only [bind_eq, pure_eq, done_bind]
  constructor
  · intro given
    simp only [argCount.gives_integer_bind_iff nonNull, name.gives_address_bind_iff nonNull,
      filename.gives_address_bind_iff nonNull, firstLine.gives_integer_bind_iff nonNull,
      lineTable.gives_address_bind_iff nonNull] at given
    obtain ⟨_, _, _, hargCount, ⟨_, _, _, hname, ⟨_, _, _, hfilename, ⟨_, _, _, hfirstLine,
      ⟨_, _, _, hlineTable, rest, rfl⟩, rfl⟩, rfl⟩, rfl⟩, rfl⟩ := given
    obtain ⟨_, hkeywordOnly, rfl⟩ :=
      (gives_keywordOnly_iff covers nonNull (Code.mk address _ _ _ _ _)).1 rest
    exact .fields hargCount hname hfilename hfirstLine hlineTable hkeywordOnly
  · intro rule
    cases rule with
    | fields hargCount hname hfilename hfirstLine hlineTable hkeywordOnly =>
      exact hargCount.bind (hname.bind (hfilename.bind (hfirstLine.bind (hlineTable.bind
        ((gives_keywordOnly_iff covers nonNull _).2 ⟨_, hkeywordOnly, rfl⟩)))))

end Reader

end RemoteStack
