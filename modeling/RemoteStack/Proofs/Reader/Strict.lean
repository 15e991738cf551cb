import RemoteStack.Proofs.Probe.Strict
import RemoteStack.Proofs.Reader.ThreadState
import RemoteStack.Stack.Walk

/-!
# Readers are strict

No part of the decoding of a frame or of a thread state takes a read that failed for a null
pointer, a zero or an empty text: every probe below `Walk.decode` is `Probe.Strict`, and so is
`Reader.threadState`. Whatever a later part makes of
the values that it gets, the statement needs no condition on them, on the catalog or on the
version.
-/

namespace RemoteStack

open Probe

theorem Layout.read_strict (layout : Layout) (object : Address) (name : String) :
    (layout.read object name).Strict := by
  unfold Layout.read
  simp only [bind_eq, pure_eq]
  split
  · trivial
  apply (strict_ofExcept _).bind
  intro field
  apply (strict_ofExcept _).bind
  intro place
  apply (strict_trace _).bind
  intro _
  -- one case for each type of field
  split
  · exact (strict_readExactly place _ _).bind fun _ => trivial
  · exact (strict_readExactly place _ _).bind fun _ => trivial
  · exact (strict_readUpTo place _ _).bind fun _ => trivial
  · exact (strict_readExactly place _ _).bind fun _ => trivial
  · trivial

namespace Reader

variable (reader : Reader) (object : Address)

theorem layout_strict (kind : ObjectKind) : (reader.layout kind).Strict :=
  (strict_reportAll _).bind fun _ => strict_ofExcept _

theorem address_strict (kind : ObjectKind) (name : String) :
    (reader.address object kind name).Strict := by
  apply (reader.layout_strict kind).bind
  intro layout
  apply (layout.read_strict object name).bind
  intro value
  cases value <;> trivial

theorem integer_strict (kind : ObjectKind) (name : String) :
    (reader.integer object kind name).Strict := by
  apply (reader.layout_strict kind).bind
  intro layout
  apply (layout.read_strict object name).bind
  intro value
  cases value <;> trivial

theorem itemsPlace_strict (layout : Layout) (name : String) :
    (itemsPlace layout object name).Strict := by
  apply (layout.read_strict object name).bind
  intro value
  cases value <;> trivial

theorem clampedCount_strict (claimed : Int) (limit : Nat) :
    (clampedCount object claimed limit).Strict := by
  unfold clampedCount
  simp only [bind_eq, pure_eq]
  split
  · trivial
  · split <;> trivial

theorem arrayLength_strict (count itemSize : Nat) : (arrayLength count itemSize).Strict := by
  unfold arrayLength
  split <;> trivial

theorem sizedChars_strict (kind : ObjectKind) : (reader.sizedChars object kind).Strict := by
  unfold sizedChars
  simp only [bind_eq, pure_eq]
  split
  · trivial
  apply (reader.integer_strict object kind _).bind
  intro claimed
  apply (clampedCount_strict object claimed _).bind
  intro length
  apply (reader.layout_strict kind).bind
  intro layout
  apply (itemsPlace_strict object layout _).bind
  intro chars
  split
  · trivial
  · exact (strict_readUpTo chars _ _).bind fun _ => trivial

theorem unicode_strict : (reader.unicode object).Strict := by
  unfold unicode
  simp only [bind_eq, pure_eq]
  split
  · trivial
  apply (reader.integer_strict object _ _).bind
  intro claimed
  apply (clampedCount_strict object claimed _).bind
  intro units
  apply (reader.address_strict object _ _).bind
  intro buffer
  split
  · trivial
  apply (arrayLength_strict units _).bind
  intro length
  exact (strict_readUpTo buffer _ _).bind fun _ => trivial

theorem text_strict : (reader.text object).Strict := by
  unfold text
  split
  · exact (reader.sizedChars_strict object _).bind fun _ => trivial
  · exact reader.unicode_strict object

theorem code_strict : (reader.code object).Strict := by
  unfold code
  simp only [bind_eq, pure_eq]
  apply (reader.integer_strict object _ _).bind
  intro argCount
  apply (reader.address_strict object _ _).bind
  intro name
  apply (reader.address_strict object _ _).bind
  intro filename
  apply (reader.integer_strict object _ _).bind
  intro firstLine
  apply (reader.address_strict object _ _).bind
  intro lineTable
  split
  · trivial
  · exact (reader.integer_strict object _ _).bind fun _ => trivial

theorem overflowFlags_strict (layout : Layout) : (reader.overflowFlags layout object).Strict := by
  unfold overflowFlags
  split
  · apply (reader.integer_strict object _ _).bind
    intro overflowed
    exact (reader.integer_strict object _ _).bind fun _ => trivial
  · trivial

theorem threadStateWith_strict (overflow : Option OverflowFlags) :
    (reader.threadStateWith object overflow).Strict := by
  unfold threadStateWith
  simp only [bind_eq, pure_eq]
  apply (reader.integer_strict object _ _).bind
  intro stored
  apply (reader.address_strict object _ _).bind
  intro next
  apply (reader.address_strict object _ _).bind
  intro interpreter
  apply (reader.address_strict object _ _).bind
  intro frame
  apply (reader.integer_strict object _ _).bind
  intro depth
  exact (reader.integer_strict object _ _).bind fun _ => trivial

theorem threadState_strict : (reader.threadState object).Strict := by
  by_cases null : object.isNull
  · unfold threadState
    rw [if_pos null]
    trivial
  · rw [threadState_eq reader null]
    apply (reader.layout_strict _).bind
    intro layout
    apply (reader.overflowFlags_strict object layout).bind
    intro overflow
    exact reader.threadStateWith_strict object overflow

end Reader

namespace Resolver

variable (resolver : Resolver)

theorem nameOr_strict (object : Address) : (resolver.nameOr object).Strict :=
  (resolver.reader.text_strict object).bind fun _ => trivial

theorem currentLine_strict (frame : Address) (code : Code) :
    (resolver.currentLine frame code).Strict := by
  unfold currentLine
  simp only [bind_eq, pure_eq]
  apply (resolver.reader.address_strict frame _ _).bind
  intro tracer
  split
  · exact (resolver.reader.integer_strict frame _ _).bind fun _ => trivial
  apply (resolver.reader.integer_strict frame _ _).bind
  intro last
  split
  · trivial
  apply (resolver.reader.sizedChars_strict code.lineTable _).bind
  intro table?
  cases table? <;> trivial

theorem position_strict (frame : Address) : (resolver.position frame).Strict := by
  unfold position
  simp only [bind_eq, pure_eq]
  apply (resolver.reader.address_strict frame _ _).bind
  intro codeAddress
  split
  · exact (resolver.reader.integer_strict frame _ _).bind fun _ => trivial
  apply (resolver.reader.code_strict codeAddress).bind
  intro code
  apply (resolver.nameOr_strict code.name).bind
  intro function
  apply (resolver.nameOr_strict code.filename).bind
  intro file
  apply (resolver.currentLine_strict frame code).bind
  intro line
  trivial

end Resolver

theorem Walk.decode_strict (walk : Walk) : walk.decode.Strict := by
  apply (walk.resolver.reader.address_strict walk.next _ _).bind
  intro link
  exact (walk.resolver.position_strict walk.next).bind fun _ => trivial

end RemoteStack
