/-
**Canonical text.** `render` writes a value so that reading the text gives the value back, for
every value that is built from atoms and pairs. A chain of pairs is written as one list, with a
dot before its end if that is not the empty list. Functions have no literal form and are written
as `#<...>`.
-/

import SmallLisp.Value.Basic

namespace SmallLisp.Value

/-- How a character is written inside a string. -/
def renderChar (c : Char) : List Char :=
  if c = '\\' then ['\\', '\\']
  else if c = '\x22' then ['\\', '\x22']
  else if c = '\n' then ['\\', 'n']
  else [c]

/-- A string between double quotes, with backslash, double quote and line feed escaped. -/
def renderString (text : String) : String :=
  String.ofList ('\x22' :: text.toList.flatMap renderChar ++ ['\x22'])

/-- The text of a value that is no pair. -/
def renderAtom : Value → String
  | .nil => "()"
  | .bool true => "true"
  | .bool false => "false"
  | .int value => toString value
  | .str text => renderString text
  | .sym name => name
  | .pair _ _ => ""
  | .builtin tag => "#<builtin " ++ tag.name ++ ">"
  | .lambda params _ _ => "#<lambda (" ++ " ".intercalate params ++ ")>"
  | .void => "#<python None>"
  | .foreign text => "#<python " ++ text ++ ">"

/-- Appends the text of a value to `done`. With `inList` the value is what follows an element of
a list that is already open: more elements, the end of the list, or a dotted end. -/
def write (inList : Bool) : Value → String → String
  | .pair first rest, done =>
    write true rest (write false first (done ++ if inList then " " else "("))
  | .nil, done => done ++ if inList then ")" else "()"
  | value, done =>
    if inList then done ++ " . " ++ renderAtom value ++ ")" else done ++ renderAtom value

/-- The canonical text of a value. -/
def render (value : Value) : String := write false value ""

end SmallLisp.Value
