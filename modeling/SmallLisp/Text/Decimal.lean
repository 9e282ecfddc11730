/-
**Decimal digits and integers of every script.** Each script that writes decimal numbers has
ten digit characters in a row (the Unicode 14 category Nd); digits of several scripts may
stand in one number. `readInteger?` reads an integer as settings write it: blanks around it,
a sign, and single underscores between digits.
-/

import SmallLisp.Text.Blank

namespace SmallLisp.Text

/-- The digit zero of each script; the digits one to nine follow it. -/
def zeroDigits : List Nat :=
  [0x30, 0x660, 0x6F0, 0x7C0, 0x966, 0x9E6, 0xA66, 0xAE6, 0xB66, 0xBE6, 0xC66, 0xCE6, 0xD66,
   0xDE6, 0xE50, 0xED0, 0xF20, 0x1040, 0x1090, 0x17E0, 0x1810, 0x1946, 0x19D0, 0x1A80, 0x1A90,
   0x1B50, 0x1BB0, 0x1C40, 0x1C50, 0xA620, 0xA8D0, 0xA900, 0xA9D0, 0xA9F0, 0xAA50, 0xABF0, 0xFF10,
   0x104A0, 0x10D30, 0x11066, 0x110F0, 0x11136, 0x111D0, 0x112F0, 0x11450, 0x114D0, 0x11650,
   0x116C0, 0x11730, 0x118E0, 0x11950, 0x11C50, 0x11D50, 0x11DA0, 0x16A60, 0x16AC0, 0x16B50,
   0x1D7CE, 0x1D7D8, 0x1D7E2, 0x1D7EC, 0x1D7F6, 0x1E140, 0x1E2F0, 0x1E950, 0x1FBF0]

/-- The value of the digit `code` among scripts whose zeros are listed in increasing order. -/
def digitIn (code : Nat) : List Nat → Option Nat
  | [] => none
  | first :: rest =>
    if code < first then none
    else if code < first + 10 then some (code - first)
    else digitIn code rest

/-- The value of a decimal digit, and `none` for any other character. -/
def digitValue? (c : Char) : Option Nat := digitIn c.toNat zeroDigits

/-- Whether `c` is a decimal digit of some script. -/
def isDigit (c : Char) : Bool := (digitValue? c).isSome

/-- The number that a row of decimal digits writes, the first digit counting most. -/
def digitsValue (digits : List Char) : Nat :=
  digits.foldl (fun total c => total * 10 + (digitValue? c).getD 0) 0

/-- A numeral split into its sign and the characters after it: `true` for a minus. -/
def splitSign : List Char → Bool × List Char
  | '-' :: rest => (true, rest)
  | '+' :: rest => (false, rest)
  | text => (false, text)

/-- The integer with a given sign and absolute value. -/
def signedValue (negative : Bool) (size : Nat) : Int :=
  if negative then -(size : Int) else size

/-- The greatest number of digits with which an integer is ever read or written. -/
def maxDigits : Nat := 4300

/-- Whether an integer has few enough digits to be written. -/
def isWritable (value : Int) : Bool := value.natAbs < Nat.pow 10 maxDigits

/-- The digits of a row in which single underscores may stand between digits; `none` if any
other character occurs or an underscore has no digit on one of its sides. -/
def groupedDigits? : List Char → Option (List Char)
  | [] => none
  | [c] => if isDigit c then some [c] else none
  | c :: '_' :: rest => if isDigit c then (groupedDigits? rest).map (c :: ·) else none
  | c :: rest => if isDigit c then (groupedDigits? rest).map (c :: ·) else none

/-- Whether `c` may stand around an integer: a blank other than the separators `U+001C` to
`U+001F`. -/
def isMargin (c : Char) : Bool := isBlank c && !(0x1C ≤ c.toNat && c.toNat ≤ 0x1F)

/-- The integer that `text` writes: blanks around it are ignored, a sign may stand first, and
single underscores may stand between digits. -/
def readInteger? (text : String) : Option Int :=
  let (negative, rest) := splitSign (trimWhere isMargin text).toList
  match groupedDigits? rest with
  | some digits =>
    if digits.length ≤ maxDigits then some (signedValue negative (digitsValue digits)) else none
  | none => none

end SmallLisp.Text
