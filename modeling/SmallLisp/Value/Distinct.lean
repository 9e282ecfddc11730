/-
**Counting different values.** Atoms, built-ins and the two marks can be counted as different or
equal by a key; a boolean has the key of the integer zero or one. Pairs and closures have no key.
-/

import SmallLisp.Value.Basic

namespace SmallLisp

/-- A value that has no key. -/
inductive Unkeyed where
  | pair
  | lambda
  deriving DecidableEq, Repr

/-- The message about a value without a key. -/
def Unkeyed.message : Unkeyed → String
  | .pair => "unhashable type: 'Pair'"
  | .lambda => "unhashable type: 'Lambda'"

namespace Value

/-- The key of a value: itself, with a boolean counted as an integer. -/
def key : Value → Except Unkeyed Value
  | .bool value => .ok (.int (if value then 1 else 0))
  | .pair _ _ => .error .pair
  | .lambda _ _ _ => .error .lambda
  | value => .ok value

/-- The number of different values among `values`; the first one without a key fails. -/
def countDistinct (values : List Value) : Except Unkeyed Nat := do
  let keys ← values.mapM key
  return keys.eraseDups.length

end Value

end SmallLisp
