/-
**Technical text.** `inspect` shows a value with its kind spelt out (`Symbol('a')`,
`Pair(1, Nil)`), the way dumps and some messages need it; `display` shows the bare text of
strings, symbols and functions and is `inspect` on everything else.
-/

import SmallLisp.Text.Quoted
import SmallLisp.Value.Render

namespace SmallLisp

/-- The member name of a built-in in technical text. -/
def Builtin.label : Builtin → String
  | .add => "ADD"
  | .sub => "SUB"
  | .mul => "MUL"
  | .eq => "EQ"
  | .println => "PRINTLN"

namespace Value

/-- Appends the technical text of a value to `done`. -/
def inspectTo : Value → String → String
  | .nil, done => done ++ "Nil"
  | .bool true, done => done ++ "True"
  | .bool false, done => done ++ "False"
  | .int value, done => done ++ toString value
  | .str text, done => done ++ Text.quoted text
  | .sym name, done => done ++ "Symbol(" ++ Text.quoted name ++ ")"
  | .pair first rest, done => inspectTo rest (inspectTo first (done ++ "Pair(") ++ ", ") ++ ")"
  | .builtin tag, done => done ++ "<BuiltIn." ++ tag.label ++ ": " ++ Text.quoted tag.name ++ ">"
  | .lambda params body path, done =>
    let head := "Lambda([" ++ ", ".intercalate (params.map Text.quoted) ++ "], "
    inspectTo body (done ++ head) ++ ", " ++ path.inspect ++ ")"
  | .void, done => done ++ "None"
  | .foreign text, done => done ++ text

/-- The technical text of a value. -/
def inspect (value : Value) : String := inspectTo value ""

/-- The plain text of a value. -/
def display : Value → String
  | .str text => text
  | .sym name => name
  | .builtin tag => tag.name
  | .lambda params body path => render (.lambda params body path)
  | value => inspect value

end Value

end SmallLisp
