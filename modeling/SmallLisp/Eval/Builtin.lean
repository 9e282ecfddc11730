/-
**The built-ins.** A built-in receives its arguments as one list value. The checks come in a fixed
order: the arguments form a proper list, their number is right, the operands of arithmetic are
integers, and its result lies in the signed 64-bit range; a result that does not is reported with
all its digits, unless they are too many to be written. `apply` gives the result together with the
text that is printed, so a failing application prints nothing.
-/

import SmallLisp.Eval.World
import SmallLisp.Value.List

namespace SmallLisp.Builtin

/-- The arguments of a built-in as a list of the right length. -/
def checkArguments (tag : Builtin) (arguments : Value) : Except Fault (List Value) :=
  if arguments.isList then do
    let found ← arguments.length
    if found = tag.arity then arguments.elements
    else .error (.arity tag.name tag.arity found)
  else .error (.argumentsNotAList arguments)

/-- The two integers that an arithmetic built-in is applied to. -/
def integerOperands (tag : Builtin) (arguments : Value) : Except Fault (Int × Int) := do
  match ← tag.checkArguments arguments with
  | [.int left, .int right] => return (left, right)
  | _ => .error (.operandTypes tag arguments)

/-- An exact result, if it lies in the signed 64-bit range. -/
def checkRange (tag : Builtin) (result : Int) : Except Fault Value :=
  if inIntRange result then .ok (.int result)
  else if Text.isWritable result then .error (.overflow tag result)
  else .error .resultTooLong

/-- An arithmetic built-in whose exact result is `compute`. -/
def arithmetic (tag : Builtin) (compute : Int → Int → Int) (arguments : Value) :
    Except Fault Value := do
  let (left, right) ← tag.integerOperands arguments
  tag.checkRange (compute left right)

/-- The result of a built-in, and the text that it prints. -/
def apply (tag : Builtin) (arguments : Value) : Except Fault (Value × String) :=
  match tag with
  | .add => do return (← arithmetic .add (· + ·) arguments, "")
  | .sub => do return (← arithmetic .sub (· - ·) arguments, "")
  | .mul => do return (← arithmetic .mul (· * ·) arguments, "")
  | .eq => do
    let (left, right) ← integerOperands .eq arguments
    return (.bool (left = right), "")
  | .println => do
    discard (checkArguments .println arguments)
    return (.nil, (← arguments.head).render ++ "\n")

/-- Applies a built-in in the world. -/
def invoke (tag : Builtin) (arguments : Value) : EvalM Value := do
  let (result, text) ← EvalM.ofExcept (tag.apply arguments)
  EvalM.print text
  return result

end SmallLisp.Builtin
