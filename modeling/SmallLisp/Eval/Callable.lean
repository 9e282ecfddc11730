/-
**Functions in operator position.** A call needs a built-in or a closure. Applying a closure binds
its parameters in a new scope, which goes on top of the path that the closure captured; the path
of the caller plays no part. The number of arguments is checked before the scope is created, so
binding either fails without a trace or adds exactly one scope.
-/

import SmallLisp.Eval.Builtin

namespace SmallLisp

/-- A procedure of the program: its parameters, its body, and the path it was created under. -/
structure Closure where
  params : List String
  body : Value
  path : ScopePath
  deriving DecidableEq, Repr

namespace Closure

/-- A closure as a value. -/
def toValue (closure : Closure) : Value := .lambda closure.params closure.body closure.path

/-- The number of arguments that a closure takes. -/
def arity (closure : Closure) : Nat := closure.params.length

/-- The scope that binds each parameter to its argument. -/
def argumentScope (closure : Closure) (arguments : Value) : Except Fault Scope := do
  let values ← arguments.elements
  if values.length = closure.arity then return .ofBindings (closure.params.zip values)
  else .error (.arity closure.toValue.render closure.arity values.length)

/-- Binds the arguments to the parameters in a new scope and gives the path of the body. -/
def bindArguments (closure : Closure) (arguments : Value) : EvalM ScopePath := do
  let scope ← EvalM.ofExcept (closure.argumentScope arguments)
  let id ← EvalM.addScope scope
  return closure.path.push id

end Closure

/-- What can stand in operator position. -/
inductive Callable where
  | builtin (tag : Builtin)
  | closure (procedure : Closure)
  deriving DecidableEq, Repr

namespace Callable

/-- A callable as a value. -/
def toValue : Callable → Value
  | .builtin tag => .builtin tag
  | .closure procedure => procedure.toValue

/-- The callable that the operator of the call `form` evaluated to. -/
def ofValue (value form : Value) : Except Fault Callable :=
  match value with
  | .builtin tag => .ok (.builtin tag)
  | .lambda params body path => .ok (.closure ⟨params, body, path⟩)
  | _ => .error (.notCallable value form)

end Callable

end SmallLisp
