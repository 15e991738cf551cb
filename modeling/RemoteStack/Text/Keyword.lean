/-!
# Keywords in any case

Keywords of the command line and the environment are ASCII words that are matched without
regard to case. A text matches a keyword iff its ASCII letters, made small, spell it. No
further case folding is needed: outside ASCII, the only character whose small form is a
lone ASCII letter is the Kelvin sign, for `k`, and no keyword here has a `k`.
-/

namespace RemoteStack.Text

/-- The text with its ASCII letters made small. -/
def small (text : String) : String := String.ofList (text.toList.map Char.toLower)

end RemoteStack.Text
