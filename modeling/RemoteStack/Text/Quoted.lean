import RemoteStack.Text.Numeral
import RemoteStack.Text.Formless

/-!
# Quoted text

A text in a log line is quoted, so that its ends and its blanks can be seen. Quotes,
backslashes and the usual control characters are escaped by a letter, and characters that
have no form of their own by their number.
-/

namespace RemoteStack.Text

/-- The character as it stands in a quoted text. -/
def escaped (c : Char) : List Char :=
  if c = '\x00' then ['\\', '0']
  else if c = '\t' then ['\\', 't']
  else if c = '\r' then ['\\', 'r']
  else if c = '\n' then ['\\', 'n']
  else if c = '"' then ['\\', '"']
  else if c = '\\' then ['\\', '\\']
  else if isFormless c then
    ['\\', 'u', Char.ofNat 0x7b] ++ Base.hexadecimal.render c.toNat ++ [Char.ofNat 0x7d]
  else [c]

/-- The text between double quotes. -/
def quoted (text : String) : String :=
  String.ofList (['"'] ++ text.toList.flatMap escaped ++ ['"'])

end RemoteStack.Text
