/-!
# Transducers

Encoded text is decoded unit by unit. A `Transducer` keeps a state, emits characters as it
takes units, and may emit more when the units end. What it has emitted is never taken back:
cutting the units short cuts the text, up to what `finish` adds for a character that was
begun and not ended.
-/

namespace RemoteStack.Text

/-- The character that stands for what cannot be decoded. -/
def replacement : Char := '\uFFFD'

/-- A decoder that takes units one by one. -/
structure Transducer (Unit State : Type) where
  start : State
  /-- The characters emitted on a unit, and the next state. -/
  step : State → Unit → List Char × State
  /-- The characters emitted when the units end. -/
  finish : State → List Char

namespace Transducer

variable {Unit State : Type}

/-- The characters of the units when they are taken in a given state, after those that
were emitted before, of which the last stands first. -/
def emit (transducer : Transducer Unit State) (emitted : List Char) (state : State) :
    List Unit → List Char
  | [] => emitted.reverse ++ transducer.finish state
  | unit :: rest =>
    let taken := transducer.step state unit
    transducer.emit (taken.1.reverse ++ emitted) taken.2 rest

/-- The characters of the units when they are taken in a given state. -/
def decodeFrom (transducer : Transducer Unit State) (state : State) (units : List Unit) :
    List Char :=
  transducer.emit [] state units

def decode (transducer : Transducer Unit State) (units : List Unit) : String :=
  String.ofList (transducer.decodeFrom transducer.start units)

theorem emit_eq_append (transducer : Transducer Unit State) (emitted : List Char)
    (state : State) (units : List Unit) :
    transducer.emit emitted state units
      = emitted.reverse ++ transducer.decodeFrom state units := by
  unfold decodeFrom
  induction units generalizing emitted state with
  | nil => simp [emit]
  | cons unit rest ih => rw [emit, emit, ih, ih (_ ++ [])]; simp

@[simp] theorem decodeFrom_nil (transducer : Transducer Unit State) (state : State) :
    transducer.decodeFrom state [] = transducer.finish state := rfl

/-- What a unit emits stands before the characters of the units after it. -/
@[simp] theorem decodeFrom_cons (transducer : Transducer Unit State) (state : State)
    (unit : Unit) (rest : List Unit) :
    transducer.decodeFrom state (unit :: rest)
      = (transducer.step state unit).1
        ++ transducer.decodeFrom (transducer.step state unit).2 rest := by
  rw [decodeFrom, emit, emit_eq_append]; simp

end Transducer

end RemoteStack.Text
