/-
**What an expression asks for.**

Much of what an evaluation does is settled by the text of the expression alone: which of the forms
it is, and whether its operands are in order. `Value.shape` makes all these checks at once, and
`evalStep_eq` states that one step of evaluation is the work that the shape asks for. So there are
seven cases to look at instead of every check of every form, and the inversions say which
expressions have which shape.
-/

import Mathlib.Data.List.Basic
import SmallLisp.Eval.Evaluate
import SmallLisp.Proofs.Value.List

namespace SmallLisp

/-- What an expression asks for, after all checks that need no evaluation. -/
inductive Shape where
  /-- a value that stands for itself or is quoted -/
  | constant (value : Value)
  /-- a form that is refused before anything is evaluated -/
  | malformed (fault : Fault)
  | symbol (name : String)
  | define (name : String) (expr : Value)
  | lambda (params : List String) (body : Value)
  | branch (condition whenTrue whenFalse : Value)
  | call (operator operands : Value)
  deriving DecidableEq, Repr

namespace Shape

/-- A shape that was checked, or the fault of the check. -/
def ofExcept : Except Fault Shape → Shape
  | .ok shape => shape
  | .error fault => .malformed fault

/-- The shape of a `define` form with the given operands. -/
def ofDefine (operands : Value) : Except Fault Shape := do
  if (← operands.length) ≠ 2 then throw (.defineOperands operands)
  let (target, expr) ← operands.take2
  match target with
  | .sym name => return .define name expr
  | _ => throw (.defineTarget target)

/-- The shape of a `lambda` form with the given operands. -/
def ofLambda (operands : Value) : Except Fault Shape := do
  if (← operands.length) ≠ 2 then throw (.lambdaOperands operands)
  let (params, body) ← operands.take2
  return .lambda (← parameterNames (← params.elements) []) body

/-- The shape of an `if` form with the given operands. -/
def ofIf (operands : Value) : Except Fault Shape := do
  if (← operands.length) ≠ 3 then throw (.ifOperands operands)
  let (condition, whenTrue, whenFalse) ← operands.take3
  return .branch condition whenTrue whenFalse

end Shape

/-- The shape of an expression. -/
def Value.shape (expr : Value) : Shape :=
  match expr with
  | .nil | .bool _ | .int _ | .str _ | .builtin _ | .lambda _ _ _ => .constant expr
  | .sym name => .symbol name
  | .pair operator operands =>
    match SpecialForm.ofOperator? operator with
    | some .quote => .ofExcept (operands.head.map .constant)
    | some .define => .ofExcept (Shape.ofDefine operands)
    | some .lambda => .ofExcept (Shape.ofLambda operands)
    | some .if => .ofExcept (Shape.ofIf operands)
    | none => .call operator operands
  | .void | .foreign _ => .malformed (.notEvaluable expr)

/-- Applies a function to a list of arguments, with `evaluate` for the body of a closure. -/
def Callable.call (evaluate : Evaluator) (arguments : Value) : Callable → EvalM Value
  | .builtin tag => tag.invoke arguments
  | .closure procedure => do
    let inner ← procedure.bindArguments arguments
    evaluate procedure.body inner

/-- What a step of evaluation does for an expression of a given shape. -/
def evalShape (evaluate : Evaluator) (expr : Value) (path : ScopePath) : Shape → EvalM Value
  | .constant value => return value
  | .malformed fault => throw fault
  | .symbol name => evalSymbol name path
  | .define name operand => do
    match ← evaluate operand path with
    | .void => throw (.defineNoValue name operand)
    | value =>
      EvalM.define path.current name value
      return .void
  | .lambda params body => do
    let id ← EvalM.addScope .empty
    return .lambda params body (path.push id)
  | .branch condition whenTrue whenFalse => do
    match ← evaluate condition path with
    | .bool true => evaluate whenTrue path
    | .bool false => evaluate whenFalse path
    | value => throw (.ifCondition value)
  | .call operator operands => evalCall evaluate expr operator operands path

/-! ### A step of evaluation follows the shape -/

/-- A check that fails is refused with its fault; otherwise evaluation goes on with what it gave. -/
theorem evalShape_ofExcept (evaluate : Evaluator) (expr : Value) (path : ScopePath)
    (check : Except Fault Shape) :
    evalShape evaluate expr path (.ofExcept check)
      = EvalM.ofExcept check >>= evalShape evaluate expr path := by
  cases check <;> rfl

theorem ofExcept_bind {α β : Type} (first : Except Fault α) (next : α → Except Fault β) :
    EvalM.ofExcept (first >>= next)
      = EvalM.ofExcept first >>= fun value => EvalM.ofExcept (next value) := by
  cases first <;> rfl

theorem evalCall_eq (evaluate : Evaluator) (form operator operands : Value) (path : ScopePath) :
    evalCall evaluate form operator operands path = (do
      let value ← evalValue evaluate operator path
      let callable ← EvalM.ofExcept (Callable.ofValue value form)
      let items ← EvalM.ofExcept operands.elements
      let arguments ← evalArguments evaluate path items []
      callable.call evaluate (Value.ofList arguments)) := by
  refine bind_congr fun value => bind_congr fun callable => bind_congr fun items =>
    bind_congr fun arguments => ?_
  cases callable <;> rfl

section Forms

variable (evaluate : Evaluator) (expr operands : Value) (path : ScopePath)

theorem evalQuote_eq :
    evalQuote operands = evalShape evaluate expr path (.ofExcept (operands.head.map .constant)) := by
  unfold evalQuote
  cases operands.head <;> rfl

theorem evalDefine_eq :
    evalDefine evaluate operands path
      = evalShape evaluate expr path (.ofExcept (Shape.ofDefine operands)) := by
  rw [evalShape_ofExcept, Shape.ofDefine, ofExcept_bind, bind_assoc]
  unfold evalDefine
  refine bind_congr fun count => ?_
  by_cases two : count ≠ 2
  · rw [if_pos two, if_pos two]
    rfl
  · rw [if_neg two, if_neg two, ofExcept_bind, bind_assoc]
    refine bind_congr fun parts => ?_
    obtain ⟨target, value⟩ := parts
    cases target <;> rfl

theorem evalLambda_eq :
    evalLambda operands path
      = evalShape evaluate expr path (.ofExcept (Shape.ofLambda operands)) := by
  rw [evalShape_ofExcept, Shape.ofLambda, ofExcept_bind, bind_assoc]
  unfold evalLambda
  refine bind_congr fun count => ?_
  by_cases two : count ≠ 2
  · rw [if_pos two, if_pos two]
    rfl
  · rw [if_neg two, if_neg two, ofExcept_bind, bind_assoc]
    refine bind_congr fun parts => ?_
    rw [ofExcept_bind, bind_assoc]
    refine bind_congr fun items => ?_
    rw [ofExcept_bind, bind_assoc]
    exact bind_congr fun names => rfl

theorem evalIf_eq :
    evalIf evaluate operands path
      = evalShape evaluate expr path (.ofExcept (Shape.ofIf operands)) := by
  rw [evalShape_ofExcept, Shape.ofIf, ofExcept_bind, bind_assoc]
  unfold evalIf
  refine bind_congr fun count => ?_
  by_cases three : count ≠ 3
  · rw [if_pos three, if_pos three]
    rfl
  · rw [if_neg three, if_neg three, ofExcept_bind, bind_assoc]
    exact bind_congr fun parts => rfl

end Forms

/-- **One step of evaluation does what the shape asks for.** -/
theorem evalStep_eq (evaluate : Evaluator) (expr : Value) (path : ScopePath) :
    evalStep evaluate expr path = evalShape evaluate expr path expr.shape := by
  cases expr with
  | pair operator operands =>
      dsimp only [evalStep, Value.shape]
      cases SpecialForm.ofOperator? operator with
      | none => rfl
      | some form =>
          cases form with
          | quote => exact evalQuote_eq evaluate _ operands path
          | define => exact evalDefine_eq evaluate _ operands path
          | lambda => exact evalLambda_eq evaluate _ operands path
          | «if» => exact evalIf_eq evaluate _ operands path
  | _ => rfl

/-! ### Which expressions have which shape -/

/-- Whether a value evaluates to itself. -/
def Value.standsForItself : Value → Bool
  | .nil | .bool _ | .int _ | .str _ | .builtin _ | .lambda _ _ _ => true
  | _ => false

/-- The expressions that have a given shape. -/
inductive Fits : Value → Shape → Prop
  | self {value : Value} (itself : value.standsForItself) : Fits value (.constant value)
  | quote (datum others : Value) : Fits (.pair (.sym "quote") (.pair datum others)) (.constant datum)
  | symbol (name : String) : Fits (.sym name) (.symbol name)
  | define (name : String) (expr : Value) :
      Fits (Value.ofList [.sym "define", .sym name, expr]) (.define name expr)
  | lambda (params : List String) (body : Value) :
      Fits (Value.ofList [.sym "lambda", Value.ofList (params.map .sym), body]) (.lambda params body)
  | branch (condition whenTrue whenFalse : Value) :
      Fits (Value.ofList [.sym "if", condition, whenTrue, whenFalse])
        (.branch condition whenTrue whenFalse)
  | call {operator : Value} (operands : Value)
      (ordinary : SpecialForm.ofOperator? operator = none) :
      Fits (.pair operator operands) (.call operator operands)
  | misshapen {operator operands : Value} {fault : Fault} (kind : Kind)
      (known : fault.kind? = some kind) (covered : .shape ∈ kind.ancestry) :
      Fits (.pair operator operands) (.malformed fault)
  | mark {value : Value} (noValue : value = .void ∨ ∃ text, value = .foreign text) :
      Fits value (.malformed (.notEvaluable value))

/-- The symbol that names a special form. -/
def SpecialForm.name : SpecialForm → String
  | .quote => "quote"
  | .define => "define"
  | .lambda => "lambda"
  | .if => "if"

theorem ofOperator?_eq_some {operator : Value} {form : SpecialForm}
    (found : SpecialForm.ofOperator? operator = some form) :
    operator = .sym form.name := by
  cases operator with
  | sym name =>
      simp only [SpecialForm.ofOperator?, SpecialForm.ofName?] at found
      split_ifs at found with isQuote isDefine isLambda isIf
      · cases found
        exact congrArg Value.sym isQuote
      · cases found
        exact congrArg Value.sym isDefine
      · cases found
        exact congrArg Value.sym isLambda
      · cases found
        exact congrArg Value.sym isIf
  | _ => cases found

/-- The names that a parameter list gives are its symbols. -/
theorem parameterNames_ok {items : List Value} {done params : List String}
    (found : parameterNames items done = .ok params) :
    ∃ names, params = done.reverse ++ names ∧ items = names.map .sym := by
  induction items generalizing done with
  | nil =>
      cases found
      exact ⟨[], (List.append_nil _).symm, rfl⟩
  | cons item rest ih =>
      cases item with
      | sym name =>
          obtain ⟨names, rfl, rfl⟩ := ih found
          exact ⟨name :: names, by simp, rfl⟩
      | _ => cases found

theorem parameterNames_error {items : List Value} {done : List String} {fault : Fault}
    (found : parameterNames items done = .error fault) : fault.kind? = some .shape := by
  induction items generalizing done with
  | nil => cases found
  | cons item rest ih =>
      cases item with
      | sym name => exact ih found
      | _ =>
          cases found
          rfl

section Operands

variable (operands : Value)

/-- Operands that are counted are a list of that length, or the form is misshapen. -/
theorem fits_counted (operator : Value) (count : Nat) (wrong : Fault) (next : Except Fault Shape)
    (shaped : wrong.kind? = some .shape)
    (listed : ∀ items, operands = Value.ofList items → items.length = count →
      Fits (.pair operator operands) (.ofExcept next)) :
    Fits (.pair operator operands) (.ofExcept (do
      if (← operands.length) ≠ count then throw wrong
      next)) := by
  cases found : operands.length with
  | error fault =>
      cases Value.length_eq_error found
      exact .misshapen .notAList rfl (by decide)
  | ok number =>
      obtain ⟨items, rfl, counted⟩ := Value.length_eq_ok_iff.mp found
      by_cases same : number = count
      · show Fits _ (.ofExcept (if number ≠ count then _ else next))
        rw [if_neg (not_not.mpr same)]
        exact listed items rfl (counted.trans same)
      · show Fits _ (.ofExcept (if number ≠ count then _ else next))
        rw [if_pos same]
        exact .misshapen .shape shaped (by decide)

theorem fits_ofDefine :
    Fits (.pair (.sym "define") operands) (.ofExcept (Shape.ofDefine operands)) := by
  refine fits_counted operands _ 2 _ _ rfl fun items listed two => ?_
  obtain ⟨target, expr, rfl⟩ := List.length_eq_two.mp two
  subst listed
  cases target with
  | sym name => exact .define name expr
  | _ => exact .misshapen .shape rfl (by decide)

theorem fits_ofLambda :
    Fits (.pair (.sym "lambda") operands) (.ofExcept (Shape.ofLambda operands)) := by
  refine fits_counted operands _ 2 _ _ rfl fun items listed two => ?_
  obtain ⟨params, body, rfl⟩ := List.length_eq_two.mp two
  subst listed
  show Fits _ (.ofExcept (do return .lambda (← parameterNames (← params.elements) []) body))
  cases found : params.elements with
  | error fault =>
      cases Value.elements_eq_error found
      exact .misshapen .notAList rfl (by decide)
  | ok items =>
      obtain rfl := Value.elements_eq_ok_iff.mp found
      show Fits _ (.ofExcept (do return .lambda (← parameterNames items []) body))
      cases named : parameterNames items [] with
      | error fault => exact .misshapen .shape (parameterNames_error named) (by decide)
      | ok names =>
          obtain ⟨names, rfl, rfl⟩ := parameterNames_ok named
          exact .lambda names body

theorem fits_ofIf :
    Fits (.pair (.sym "if") operands) (.ofExcept (Shape.ofIf operands)) := by
  refine fits_counted operands _ 3 _ _ rfl fun items listed three => ?_
  obtain ⟨condition, whenTrue, whenFalse, rfl⟩ := List.length_eq_three.mp three
  subst listed
  exact .branch condition whenTrue whenFalse

end Operands

/-- **Every expression has the form that its shape says.** -/
theorem Value.fits_shape (expr : Value) : Fits expr expr.shape := by
  cases expr with
  | pair operator operands =>
      dsimp only [Value.shape]
      cases found : SpecialForm.ofOperator? operator with
      | none => exact .call operands found
      | some form =>
          obtain rfl := ofOperator?_eq_some found
          cases form with
          | quote =>
              cases operands with
              | pair datum others => exact .quote datum others
              | nil => exact .misshapen .emptyList rfl (by decide)
              | _ => exact .misshapen .notAList rfl (by decide)
          | define => exact fits_ofDefine operands
          | lambda => exact fits_ofLambda operands
          | «if» => exact fits_ofIf operands
  | sym name => exact .symbol name
  | void => exact .mark (.inl rfl)
  | foreign text => exact .mark (.inr ⟨text, rfl⟩)
  | _ => exact .self rfl

/-! ### The shapes of given expressions -/

theorem ofOperator?_eq_none_iff {operator : Value} :
    SpecialForm.ofOperator? operator = none ↔ ∀ form : SpecialForm, operator ≠ .sym form.name := by
  constructor
  · rintro ordinary form rfl
    cases form <;> cases ordinary
  · intro ordinary
    cases found : SpecialForm.ofOperator? operator with
    | none => rfl
    | some form => exact absurd (ofOperator?_eq_some found) (ordinary form)

theorem parameterNames_map_sym (params done : List String) :
    parameterNames (params.map .sym) done = .ok (done.reverse ++ params) := by
  induction params generalizing done with
  | nil => rw [List.map_nil, parameterNames, List.append_nil]
  | cons param params ih =>
      rw [List.map_cons, parameterNames, ih, List.reverse_cons, List.append_assoc]
      rfl

namespace Value

theorem shape_of_standsForItself {value : Value} (itself : value.standsForItself) :
    value.shape = .constant value := by
  cases value with
  | sym | pair | void | foreign => cases itself
  | _ => rfl

theorem shape_lambda (params : List String) (body : Value) :
    (ofList [.sym "lambda", ofList (params.map .sym), body]).shape = .lambda params body := by
  have named : parameterNames (params.map .sym) [] = .ok params := parameterNames_map_sym params []
  have checked : Shape.ofLambda (ofList [ofList (params.map .sym), body])
      = (do return .lambda (← parameterNames (← (ofList (params.map .sym)).elements) []) body) := rfl
  show Shape.ofExcept (Shape.ofLambda (ofList [ofList (params.map .sym), body])) = _
  rw [checked, elements_ofList]
  show Shape.ofExcept (do return .lambda (← parameterNames (params.map .sym) []) body) = _
  rw [named]
  rfl

theorem shape_call {operator : Value} (operands : Value)
    (ordinary : ∀ form : SpecialForm, operator ≠ .sym form.name) :
    (Value.pair operator operands).shape = .call operator operands := by
  rw [Value.shape, ofOperator?_eq_none_iff.mpr ordinary]

end Value

/-! ### What can be called -/

theorem Callable.ofValue_eq_ok_iff {value form : Value} {callable : Callable} :
    ofValue value form = .ok callable ↔ value = callable.toValue := by
  constructor
  · intro found
    cases value with
    | builtin | lambda =>
        cases found
        rfl
    | _ => cases found
  · rintro rfl
    cases callable <;> rfl

theorem Closure.argumentScope_ofList (closure : Closure) (values : List Value) :
    closure.argumentScope (Value.ofList values) =
      if values.length = closure.arity then .ok (.ofBindings (closure.params.zip values))
      else .error (.arity closure.toValue.render closure.arity values.length) := by
  rw [argumentScope, Value.elements_ofList]
  rfl

theorem Closure.argumentScope_eq_ok_iff {closure : Closure} {values : List Value} {scope : Scope} :
    closure.argumentScope (Value.ofList values) = .ok scope ↔
      values.length = closure.params.length ∧ scope = .ofBindings (closure.params.zip values) := by
  rw [argumentScope_ofList]
  by_cases counted : values.length = closure.arity
  · rw [if_pos counted, Except.ok.injEq, eq_comm]
    exact (and_iff_right counted).symm
  · rw [if_neg counted]
    exact ⟨fun found => (nomatch found), fun ⟨same, _⟩ => absurd same counted⟩

end SmallLisp
