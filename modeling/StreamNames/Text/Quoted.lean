import StreamNames.Unicode.BinaryProperty

/-!
# Quoted text

Text in quotes as messages show it: quotes, backslashes and everything that cannot be seen
is escaped, so that the text can be told from its surroundings.
-/

namespace StreamNames.Text

open StreamNames.Unicode (generalCategory isGraphemeExtend)

/-- Whether a character can be seen on its own: it is neither a control nor a separator,
is assigned, and does not combine with the character before it. -/
def isVisible (c : Char) : Bool :=
  if c.toNat < 0x80 then ' ' ≤ c && c ≤ '~'
  else !(["Cc", "Cf", "Co", "Cn", "Zl", "Zp", "Zs"].contains (generalCategory c))
    && !isGraphemeExtend c

/-- The digits of a number in lower-case hexadecimal. -/
def hexText (n : Nat) : String := String.ofList (Nat.toDigits 16 n)

/-- A character as it is shown between quotes. -/
def showChar (c : Char) : String :=
  if c = '"' then "\\\""
  else if c = '\\' then "\\\\"
  else if c = '\n' then "\\n"
  else if c = '\r' then "\\r"
  else if c = '\t' then "\\t"
  else if c = '\x00' then "\\0"
  else if isVisible c then String.ofList [c]
  else "\\u\x7b" ++ hexText c.toNat ++ "\x7d"

/-- Text in quotes. -/
def quoted (text : String) : String :=
  "\"" ++ String.join (text.toList.map showChar) ++ "\""

end StreamNames.Text
