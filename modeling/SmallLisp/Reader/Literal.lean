/-
**Literals.** What an atom and a string token stand for. An atom is one of the three reserved
words, an integer (an optional sign and decimal digits of any script), or a symbol; a symbol
starts with a letter or one of `_ - + * ? = / ! & |` and goes on with these and numeral signs. In
a string token, everything between the first and the last character is the text, and a backslash
must stand before `n`, a backslash or a double quote.
-/

import SmallLisp.Text.Decimal
import SmallLisp.Text.Letter
import SmallLisp.Fault

namespace SmallLisp

/-! ### Atoms -/

/-- Whether `c` is punctuation that a symbol may start with. -/
def isSymbolMark (c : Char) : Bool := ['_', '-', '+', '*', '?', '=', '/', '!', '&', '|'].contains c

/-- Whether a symbol may start with `c`. -/
def isSymbolStart (c : Char) : Bool := Text.isLetter c || isSymbolMark c

/-- Whether a symbol may go on with `c`. -/
def isSymbolChar (c : Char) : Bool := isSymbolStart c || Text.isNumeral c

/-- The sign and the digits of a numeral: an optional sign, then one or more decimal digits. -/
def numeral? (chars : List Char) : Option (Bool × List Char) :=
  let (negative, digits) := Text.splitSign chars
  if !digits.isEmpty && digits.all Text.isDigit then some (negative, digits) else none

/-- The integer of a numeral. The number of digits is checked first, then the range. -/
def readNumeral (token : String) (negative : Bool) (digits : List Char) : Except Fault Value :=
  if Text.maxDigits < digits.length then .error (.digitCount digits.length)
  else
    let value := Text.signedValue negative (Text.digitsValue digits)
    if inIntRange value then .ok (.int value) else .error (.integerRange token)

/-- The symbol that a token spells. -/
def readSymbol (token : String) : Except Fault Value :=
  match token.toList with
  | [] => .error .textEnd
  | first :: rest =>
    if isSymbolStart first && rest.all isSymbolChar then .ok (.sym token)
    else .error (.invalidToken token)

/-- The value of an atom token. -/
def readAtom (token : String) : Except Fault Value :=
  if token = "true" then .ok (.bool true)
  else if token = "false" then .ok (.bool false)
  else if token = "nil" then .ok .nil
  else
    match numeral? token.toList with
    | some (negative, digits) => readNumeral token negative digits
    | none => readSymbol token

/-! ### Strings -/

/-- The character that a backslash and `c` stand for. -/
def unescape? (c : Char) : Option Char :=
  if c = 'n' then some '\n'
  else if c = '\\' then some '\\'
  else if c = '\x22' then some '\x22'
  else none

/-- Resolves the escapes in the body of a string token; `done` holds the text so far, newest
character first. -/
def unescapeFrom (token : String) (done : List Char) : List Char → Except Fault (List Char)
  | [] => .ok done.reverse
  | c :: rest =>
    if c = '\\' then
      match rest with
      | [] => .error .textEnd
      | escape :: rest =>
        match unescape? escape with
        | some plain => unescapeFrom token (plain :: done) rest
        | none => .error (.unknownEscape escape token)
    else unescapeFrom token (c :: done) rest

/-- The text of a string token: its first and last character are dropped whatever they are. -/
def readString (token : String) : Except Fault String := do
  let chars ← unescapeFrom token [] (token.toList.drop 1).dropLast
  return String.ofList chars

end SmallLisp
