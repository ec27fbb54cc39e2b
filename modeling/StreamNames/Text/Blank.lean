import StreamNames.Unicode.BinaryProperty

/-!
# Blank text
-/

namespace StreamNames.Text

/-- Whether a text is empty or consists of white space. -/
def isBlank (text : String) : Bool := text.toList.all Unicode.isWhitespace

end StreamNames.Text
