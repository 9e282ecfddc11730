/-
**Quoted text.** A text is shown between single quotes, or between double quotes if it holds a
single quote and no double quote. The closing quote and the backslash are escaped, line feed,
carriage return and tab have short escapes, and every other character that is not printable is
shown by its code point in two, four or eight hexadecimal digits.
-/

import SmallLisp.Text.Printable

namespace SmallLisp.Text

/-- The last `width` hexadecimal digits of `code`, in lower case. -/
def hexDigits : Nat → Nat → List Char
  | 0, _ => []
  | width + 1, code => hexDigits width (code / 16) ++ [Nat.digitChar (code % 16)]

/-- The escape of a character that is not printable: `\xNN`, `\uNNNN` or `\UNNNNNNNN`. -/
def codeEscape (code : Nat) : List Char :=
  if code < 0x100 then '\\' :: 'x' :: hexDigits 2 code
  else if code < 0x10000 then '\\' :: 'u' :: hexDigits 4 code
  else '\\' :: 'U' :: hexDigits 8 code

/-- How `c` is written inside text that is closed by `mark`. -/
def quotedChar (mark c : Char) : List Char :=
  if c = mark || c = '\\' then ['\\', c]
  else if c = '\n' then ['\\', 'n']
  else if c = '\r' then ['\\', 'r']
  else if c = '\t' then ['\\', 't']
  else if isPrintable c then [c]
  else codeEscape c.toNat

/-- The quote that encloses a text. -/
def quoteMark (chars : List Char) : Char :=
  if chars.contains '\x27' && !chars.contains '\x22' then '\x22' else '\x27'

/-- The text between quotes. -/
def quoted (text : String) : String :=
  let chars := text.toList
  let mark := quoteMark chars
  String.ofList (mark :: chars.flatMap (quotedChar mark) ++ [mark])

end SmallLisp.Text
