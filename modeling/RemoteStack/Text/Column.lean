/-!
# Columns

Fixed-width columns of a report. A text wider than its column is kept whole.
-/

namespace RemoteStack.Text

/-- The text at the left of a column of `width` characters. -/
def leftIn (width : Nat) (text : String) : String :=
  String.ofList (text.toList.rightpad width ' ')

/-- The text at the right of a column of `width` characters. -/
def rightIn (width : Nat) (text : String) : String :=
  String.ofList (text.toList.leftpad width ' ')

end RemoteStack.Text
