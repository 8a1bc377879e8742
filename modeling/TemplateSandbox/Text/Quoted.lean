/-
# Text between quotation marks

How a string is shown inside a message: between double quotes, with everything
that a reader could not see or could mistake written as an escape.

| character | written |
| --- | --- |
| `"`, `\` | after a backslash |
| tab, line feed, carriage return, null | `\t`, `\n`, `\r`, `\0` |
| not printable, or attached to the one before | `\u`, then the code point in braces |
| any other | as it is |
-/

import TemplateSandbox.Text.Printable
import TemplateSandbox.Text.Extender

namespace TemplateSandbox
namespace Text

/-- The digits of `n` to base sixteen, small letters, no leading zero. -/
def hex (n : Nat) : String := String.ofList (Nat.toDigits 16 n)

/-- One character as it stands between quotation marks. -/
def quotedChar (c : Char) : String :=
  if c = '"' then "\\\""
  else if c = '\\' then "\\\\"
  else if c = '\t' then "\\t"
  else if c = '\n' then "\\n"
  else if c = '\r' then "\\r"
  else if c = '\x00' then "\\0"
  else if isExtender c || !isPrintable c then "\\u\x7b" ++ hex c.toNat ++ "\x7d"
  else String.singleton c

/-- `s` between double quotes. -/
def quoted (s : String) : String :=
  "\"" ++ String.join (s.toList.map quotedChar) ++ "\""

end Text
end TemplateSandbox
