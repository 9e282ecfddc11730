/-
**Values.** Code and data share one type: atoms, pairs and functions. `void` is the mark of an
expression that produces no value (a definition), and `foreign` stands for an object of the
surrounding program that the language knows nothing about; neither is an atom, a pair or a
function.

`same` compares two values by structure. Integers are unbounded here; the reader and the
arithmetic built-ins keep them in the signed 64-bit range.
-/

import SmallLisp.Scope.Path

namespace SmallLisp

/-- The procedures that every program can call. -/
inductive Builtin where
  | add
  | sub
  | mul
  | eq
  | println
  deriving DecidableEq, Repr

namespace Builtin

/-- The symbol that names a built-in. -/
def name : Builtin → String
  | .add => "+"
  | .sub => "-"
  | .mul => "*"
  | .eq => "="
  | .println => "println"

/-- The built-in with a given name. -/
def ofName? (name : String) : Option Builtin :=
  if name = "+" then some .add
  else if name = "-" then some .sub
  else if name = "*" then some .mul
  else if name = "=" then some .eq
  else if name = "println" then some .println
  else none

/-- How many arguments a built-in takes. -/
def arity : Builtin → Nat
  | .println => 1
  | _ => 2

theorem ofName?_eq_some_iff {text : String} {tag : Builtin} :
    ofName? text = some tag ↔ text = tag.name := by
  unfold ofName?
  repeat' split
  all_goals cases tag <;> simp_all [Builtin.name]

end Builtin

/-- A value of the language, or one of the two marks that are none. -/
inductive Value where
  | nil
  | bool (value : Bool)
  | int (value : Int)
  | str (text : String)
  | sym (name : String)
  | pair (first rest : Value)
  | builtin (tag : Builtin)
  | lambda (params : List String) (body : Value) (path : ScopePath)
  | void
  | foreign (text : String)
  deriving DecidableEq, Repr, Inhabited

namespace Value

/-! ### Kinds -/

/-- The empty list, symbols, strings, integers and booleans are atoms. -/
def isAtom : Value → Bool
  | .nil | .bool _ | .int _ | .str _ | .sym _ => true
  | _ => false

/-- Whether a value is a symbol. -/
def isSymbol : Value → Bool
  | .sym _ => true
  | _ => false

/-- Whether a value is an integer; a boolean is not. -/
def isInteger : Value → Bool
  | .int _ => true
  | _ => false

/-- Whether a value is a boolean. -/
def isBoolean : Value → Bool
  | .bool _ => true
  | _ => false

/-- Whether a value is a string. -/
def isString : Value → Bool
  | .str _ => true
  | _ => false

/-- Built-ins and closures are functions. -/
def isFunction : Value → Bool
  | .builtin _ | .lambda _ _ _ => true
  | _ => false

/-! ### Structural equality -/

/-- Whether two values are the same tree: the same kinds and the same atoms everywhere, and for
closures the same parameters, path and body. -/
def same : Value → Value → Bool
  | .nil, .nil => true
  | .bool a, .bool b => a == b
  | .int a, .int b => a == b
  | .str a, .str b => a == b
  | .sym a, .sym b => a == b
  | .pair a as, .pair b bs => same a b && same as bs
  | .builtin a, .builtin b => a == b
  | .lambda ps a p, .lambda qs b q => ps == qs && p == q && same a b
  | .void, .void => true
  | .foreign a, .foreign b => a == b
  | _, _ => false

end Value

/-! ### Integers of the language -/

/-- The least integer of the language. -/
def minInt : Int := -9223372036854775808

/-- The greatest integer of the language. -/
def maxInt : Int := 9223372036854775807

/-- Whether an integer lies in the signed 64-bit range. -/
def inIntRange (value : Int) : Bool := minInt ≤ value && value ≤ maxInt

end SmallLisp
