/-
**Evaluation.** Functions and atoms other than symbols evaluate to themselves. A symbol names a
built-in, or else whatever the path binds it to. A pair is one of four special forms, chosen by
the symbol in front, or a call: the operator is evaluated, then the arguments from left to right,
all under the same path, and the function is applied. An expression that produces no value (a
definition, or what ends in one) gives `void`.

`step` is one evaluation step over an evaluator for the parts; `eval depth` ties the knot, with
`depth` bounding how deeply evaluations may be nested. There is no elimination of tail calls.
-/

import SmallLisp.Eval.Callable

namespace SmallLisp

/-- Evaluates an expression under a path. -/
abbrev Evaluator := Value → ScopePath → EvalM Value

/-! ### Symbols -/

/-- The value of a symbol. Built-ins come first, so that no binding can hide one. -/
def evalSymbol (name : String) (path : ScopePath) : EvalM Value := do
  match Builtin.ofName? name with
  | some tag => return .builtin tag
  | none =>
    match ← EvalM.resolve path name with
    | none | some .void => throw (.unbound name)
    | some value => return value

/-- Evaluates an expression that must produce a value. -/
@[specialize] def evalValue (evaluate : Evaluator) (expr : Value) (path : ScopePath) :
    EvalM Value := do
  match ← evaluate expr path with
  | .void => throw (.noValue expr)
  | value => return value

/-! ### Special forms -/

/-- The forms that do not evaluate all their operands. -/
inductive SpecialForm where
  | quote
  | define
  | lambda
  | if
  deriving DecidableEq, Repr

/-- The special form that a symbol names. -/
def SpecialForm.ofName? (name : String) : Option SpecialForm :=
  if name = "quote" then some .quote
  else if name = "define" then some .define
  else if name = "lambda" then some .lambda
  else if name = "if" then some .if
  else none

/-- The special form that an operator stands for. -/
def SpecialForm.ofOperator? : Value → Option SpecialForm
  | .sym name => ofName? name
  | _ => none

/-- `(quote datum)` gives its first operand as it stands and ignores the others. -/
def evalQuote (operands : Value) : EvalM Value := EvalM.ofExcept operands.head

/-- `(define name expr)` binds a name in the innermost scope of the path. -/
@[specialize] def evalDefine (evaluate : Evaluator) (operands : Value) (path : ScopePath) :
    EvalM Value := do
  let count ← EvalM.ofExcept operands.length
  if count ≠ 2 then throw (.defineOperands operands)
  let (target, expr) ← EvalM.ofExcept operands.take2
  match target with
  | .sym name =>
    match ← evaluate expr path with
    | .void => throw (.defineNoValue name expr)
    | value =>
      EvalM.define path.current name value
      return .void
  | _ => throw (.defineTarget target)

/-- The names of a parameter list. -/
def parameterNames : List Value → List String → Except Fault (List String)
  | [], names => .ok names.reverse
  | .sym name :: params, names => parameterNames params (name :: names)
  | param :: _, _ => .error (.lambdaParameter param)

/-- `(lambda (param ...) body)` creates a scope and a closure that captures the path with it. -/
def evalLambda (operands : Value) (path : ScopePath) : EvalM Value := do
  let count ← EvalM.ofExcept operands.length
  if count ≠ 2 then throw (.lambdaOperands operands)
  let (params, body) ← EvalM.ofExcept operands.take2
  let items ← EvalM.ofExcept params.elements
  let names ← EvalM.ofExcept (parameterNames items [])
  let id ← EvalM.addScope .empty
  return .lambda names body (path.push id)

/-- `(if condition then else)` evaluates one of its branches; only booleans select one. -/
@[specialize] def evalIf (evaluate : Evaluator) (operands : Value) (path : ScopePath) :
    EvalM Value := do
  let count ← EvalM.ofExcept operands.length
  if count ≠ 3 then throw (.ifOperands operands)
  let (condition, whenTrue, whenFalse) ← EvalM.ofExcept operands.take3
  match ← evaluate condition path with
  | .bool true => evaluate whenTrue path
  | .bool false => evaluate whenFalse path
  | value => throw (.ifCondition value)

/-! ### Calls -/

/-- Evaluates arguments from left to right; `done` holds the values so far, newest first. -/
@[specialize] def evalArguments (evaluate : Evaluator) (path : ScopePath) :
    List Value → List Value → EvalM (List Value)
  | [], done => return done.reverse
  | argument :: arguments, done => do
    match ← evaluate argument path with
    | .void => throw (.noValue argument)
    | value => evalArguments evaluate path arguments (value :: done)

/-- The call `(operator . operands)`, which is `form` as a whole. -/
@[specialize] def evalCall (evaluate : Evaluator) (form operator operands : Value)
    (path : ScopePath) : EvalM Value := do
  let value ← evalValue evaluate operator path
  let callable ← EvalM.ofExcept (Callable.ofValue value form)
  let items ← EvalM.ofExcept operands.elements
  let arguments ← evalArguments evaluate path items []
  match callable with
  | .builtin tag => tag.invoke (Value.ofList arguments)
  | .closure procedure =>
    let inner ← procedure.bindArguments (Value.ofList arguments)
    evaluate procedure.body inner

/-! ### The evaluator -/

/-- One step of evaluation, with `evaluate` for the parts. -/
@[specialize] def evalStep (evaluate : Evaluator) (expr : Value) (path : ScopePath) :
    EvalM Value :=
  match expr with
  | .nil | .bool _ | .int _ | .str _ | .builtin _ | .lambda _ _ _ => return expr
  | .sym name => evalSymbol name path
  | .pair operator operands =>
    match SpecialForm.ofOperator? operator with
    | some .quote => evalQuote operands
    | some .define => evalDefine evaluate operands path
    | some .lambda => evalLambda operands path
    | some .if => evalIf evaluate operands path
    | none => evalCall evaluate expr operator operands path
  | .void | .foreign _ => throw (.notEvaluable expr)

/-- Evaluates an expression under a path, with evaluations nested at most `depth` deep. -/
def eval : Nat → Evaluator
  | 0 => fun _ _ => throw .depthExhausted
  | depth + 1 => evalStep (eval depth)

@[simp] theorem eval_zero (expr : Value) (path : ScopePath) :
    eval 0 expr path = throw .depthExhausted := rfl

@[simp] theorem eval_succ (depth : Nat) (expr : Value) (path : ScopePath) :
    eval (depth + 1) expr path = evalStep (eval depth) expr path := rfl

end SmallLisp
