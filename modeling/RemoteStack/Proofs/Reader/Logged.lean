import RemoteStack.Proofs.Probe.Logged
import RemoteStack.Proofs.Probe.Sequence
import RemoteStack.Proofs.Reader.Bounded

/-!
# Which reads a field takes

A declared field of an object that is an integer or a pointer is read whole, by one read of the
size of its type at its place (`Reader.Declares.read_logs`), and if it has a value, it was read
(`Reader.Declares.integer_logs`).
-/

namespace RemoteStack

open Probe

/-- An integer or a pointer: a value that is read whole. -/
def FieldType.IsScalar : FieldType → Prop
  | .integer _ | .address => True
  | .chars .. | .struct .. | .items _ => False

/-- The one read that a scalar field of an object takes. -/
def Field.AskedIn (field : Field) (object : Address) (made : List Request) : Prop :=
  ∃ place, field.addressIn object = .ok place ∧ made = [⟨place, field.size⟩]

/-- A scalar field of an object is read by one read of its size, unless it lies outside the
address space. -/
theorem Layout.read_logs {layout : Layout} {object : Address} {name : String} {field : Field}
    (nonNull : ¬object.isNull) (hfield : layout.field name = .ok field)
    (scalar : field.type.IsScalar) :
    (layout.read object name).Logs (fun made => made = [] ∨ field.AskedIn object made)
      fun _ => field.AskedIn object := by
  unfold Layout.read
  simp only [bind_eq, pure_eq, if_neg nonNull, hfield, Probe.ofExcept, done_bind]
  cases hplace : field.addressIn object with
  | error failure => exact .inl rfl
  | ok place =>
    simp only [done_bind]
    apply (bounded_trace _).bind_logs (.inl rfl)
    intro _ _
    have asked : field.AskedIn object [⟨place, field.size⟩] := ⟨place, hplace, rfl⟩
    cases htype : field.type with
    | integer | address =>
      apply (logs_readExactly (.inr asked) fun _ => asked).bind
      intro bytes made hmade
      simpa using hmade
    | chars | struct | items =>
      rw [htype] at scalar
      exact scalar.elim

namespace Reader

variable {reader : Reader} {kind : ObjectKind} {object : Address}

/-- The request is the read of a declared field of the object. -/
def AsksFor (reader : Reader) (object : Address) (kind : ObjectKind) (decl : FieldDecl)
    (request : Request) : Prop :=
  ∃ layout field, reader.catalog.layoutFor kind reader.version = .ok layout ∧
    layout.field decl.name = .ok field ∧ field.addressIn object = .ok request.address ∧
    request.length = decl.type.size reader.version.abi

/-- The one read that a declared field takes. -/
def AskedOnce (reader : Reader) (object : Address) (kind : ObjectKind) (decl : FieldDecl)
    (made : List Request) : Prop :=
  ∃ request, reader.AsksFor object kind decl request ∧ made = [request]

/-- The choice of a layout leaves the result and the reads of what follows as they are. -/
theorem run_layout_bind {α : Type} {layout : Layout} {memory : Memory} {served : Nat}
    (hlayout : reader.catalog.layoutFor kind reader.version = .ok layout)
    {next : Layout → Probe α} :
    (((reader.layout kind).bind next).run memory served).outcome =
        ((next layout).run memory served).outcome ∧
      (((reader.layout kind).bind next).run memory served).requests =
        ((next layout).run memory served).requests := by
  simp only [Reader.layout, Probe.bind_eq, hlayout, Probe.ofExcept, Probe.bind_assoc,
    Probe.done_bind]
  exact Probe.run_reportAll_bind _ _

/-- A declared scalar field is read by one read of the size of its type. -/
theorem Declares.read_logs {name : String} {type : FieldType}
    (declared : reader.Declares kind ⟨name, type⟩) (scalar : type.IsScalar)
    (nonNull : ¬object.isNull) :
    ((reader.layout kind).bind fun layout => layout.read object name).Logs
      (fun made => made = [] ∨ reader.AskedOnce object kind ⟨name, type⟩ made)
      fun _ => reader.AskedOnce object kind ⟨name, type⟩ := by
  apply (reader.layout_bounded kind).bind_logs (.inl rfl)
  intro layout hlayout
  obtain ⟨field, hfield, rfl, hsize⟩ := declared.exists_field_in hlayout
  have once : ∀ made, field.AskedIn object made →
      reader.AskedOnce object kind ⟨name, field.type⟩ made := by
    rintro _ ⟨place, hplace, rfl⟩
    exact ⟨_, ⟨layout, field, hlayout, hfield, hplace, hsize⟩, rfl⟩
  apply (Layout.read_logs nonNull hfield scalar).mono
  · intro made
    exact Or.imp_right (once made)
  · intro _
    exact once

/-- An integer field that has a value was read. A null object has none. -/
theorem Declares.integer_logs {name : String} {width : IntWidth}
    (declared : reader.Declares kind ⟨name, .integer width⟩) :
    (reader.integer object kind name).Logs
      (fun made => made = [] ∨ reader.AskedOnce object kind ⟨name, .integer width⟩ made)
      fun _ => reader.AskedOnce object kind ⟨name, .integer width⟩ := by
  simp only [Reader.integer, bind_eq, pure_eq]
  by_cases null : object.isNull
  · apply (reader.layout_bounded kind).bind_logs (.inl rfl)
    intro layout _
    simp only [Layout.read, if_pos null, pure_eq, done_bind]
    exact .inl rfl
  · rw [← bind_assoc]
    apply (declared.read_logs trivial null).bind
    intro value made asked
    cases value with
    | null | integer | address | chars | bytes | items => simp [FieldValue.integer?, asked]

end Reader

end RemoteStack
