/-!
# Case of letters

Names that are compared without regard to case; only the letters of ASCII have two cases here.
-/

namespace BuzzerScript.Text

/-- A text with its ASCII letters in lower case. -/
def lowerCase (text : String) : String := String.ofList (text.toList.map Char.toLower)

end BuzzerScript.Text
