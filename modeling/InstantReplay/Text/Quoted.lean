import InstantReplay.Text.Numeral
import InstantReplay.Text.Printable

/-!
# Quoted text

A path or text in a log line or message stands between double quotes. Quotes, backslashes and
characters that cannot be seen are escaped, so that the text can be read back from its quotation.
-/

namespace InstantReplay

/-- A character inside double quotes. -/
def quotedChar (c : Char) : String :=
  if c = '\x00' then "\\0"
  else if c = '\t' then "\\t"
  else if c = '\r' then "\\r"
  else if c = '\n' then "\\n"
  else if c = '"' then "\\\""
  else if c = '\\' then "\\\\"
  else if isPrintable c then String.singleton c
  else "\\u\x7b" ++ Numeral.hex c.toNat ++ "\x7d"

/-- A text between double quotes. -/
def quoted (text : String) : String :=
  "\"" ++ String.join (text.toList.map quotedChar) ++ "\""

end InstantReplay
