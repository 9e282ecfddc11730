/-
**Renaming scopes in expressions and functions.**

What is checked before or without an evaluation does not depend on the numbers of the scopes that
closures captured:

* `Value.shape_rename`: a renamed expression has the renamed shape;
* `Builtin.apply_rename`: a built-in treats renamed arguments alike;
* `Callable.ofValue_rename`: what can be called can be called when renamed.
-/

import SmallLisp.Proofs.Eval.Builtin
import SmallLisp.Proofs.Eval.Shape
import SmallLisp.Proofs.Value.Rename

namespace SmallLisp

variable {map : Int → Int} {ids : Set Int}

/-! ### Shapes -/

namespace Shape

/-- The shape of a renamed expression. -/
def rename (map : Int → Int) : Shape → Shape
  | .constant value => .constant (value.rename map)
  | .malformed fault => .malformed (fault.rename map)
  | .symbol name => .symbol name
  | .define name expr => .define name (expr.rename map)
  | .lambda params body => .lambda params (body.rename map)
  | .branch condition whenTrue whenFalse =>
    .branch (condition.rename map) (whenTrue.rename map) (whenFalse.rename map)
  | .call operator operands => .call (operator.rename map) (operands.rename map)

/-- All scopes in the parts of an expression are among the given ones. -/
def Within (ids : Set Int) : Shape → Prop
  | .constant value => value.Within ids
  | .define _ expr => expr.Within ids
  | .lambda _ body => body.Within ids
  | .branch condition whenTrue whenFalse =>
    condition.Within ids ∧ whenTrue.Within ids ∧ whenFalse.Within ids
  | .call operator operands => operator.Within ids ∧ operands.Within ids
  | .malformed _ | .symbol _ => True

theorem ofExcept_rename (check : Except Fault Shape) :
    ofExcept (renameCheck map (rename map) check) = (ofExcept check).rename map := by
  cases check <;> rfl

theorem ofDefine_rename (operands : Value) :
    ofDefine (operands.rename map) = renameCheck map (rename map) (ofDefine operands) := by
  rw [ofDefine, Value.length_rename]
  refine renameCheck_bind fun count => ?_
  by_cases two : count ≠ 2
  · rw [id, if_pos two, if_pos two]
    rfl
  · rw [id, if_neg two, if_neg two, Value.take2_rename]
    refine renameCheck_bind fun parts => ?_
    obtain ⟨target, expr⟩ := parts
    cases target <;> rfl

theorem parameterNames_rename (items : List Value) (names : List String) :
    parameterNames (items.map (Value.rename map)) names
      = renameCheck map id (parameterNames items names) := by
  induction items generalizing names with
  | nil => rfl
  | cons item items ih =>
      cases item with
      | sym name => exact ih (name :: names)
      | _ => rfl

theorem ofLambda_rename (operands : Value) :
    ofLambda (operands.rename map) = renameCheck map (rename map) (ofLambda operands) := by
  rw [ofLambda, Value.length_rename]
  refine renameCheck_bind fun count => ?_
  by_cases two : count ≠ 2
  · rw [id, if_pos two, if_pos two]
    rfl
  · rw [id, if_neg two, if_neg two, Value.take2_rename]
    refine renameCheck_bind fun parts => ?_
    obtain ⟨params, body⟩ := parts
    dsimp only [Prod.map]
    rw [Value.elements_rename]
    refine renameCheck_bind fun items => ?_
    rw [parameterNames_rename]
    exact renameCheck_bind fun names => rfl

theorem ofIf_rename (operands : Value) :
    ofIf (operands.rename map) = renameCheck map (rename map) (ofIf operands) := by
  rw [ofIf, Value.length_rename]
  refine renameCheck_bind fun count => ?_
  by_cases three : count ≠ 3
  · rw [id, if_pos three, if_pos three]
    rfl
  · rw [id, if_neg three, if_neg three, Value.take3_rename]
    exact renameCheck_bind fun parts => rfl

end Shape

theorem ofOperator?_rename (operator : Value) :
    SpecialForm.ofOperator? (operator.rename map) = SpecialForm.ofOperator? operator := by
  cases operator <;> rfl

/-- **A renamed expression has the renamed shape.** -/
theorem Value.shape_rename (expr : Value) : (expr.rename map).shape = expr.shape.rename map := by
  cases expr with
  | pair operator operands =>
      dsimp only [Value.rename, Value.shape]
      rw [ofOperator?_rename]
      cases SpecialForm.ofOperator? operator with
      | none => rfl
      | some form =>
          cases form with
          | quote =>
              dsimp only
              rw [head_rename]
              cases operands.head <;> rfl
          | define => exact (congrArg _ (Shape.ofDefine_rename operands)).trans (Shape.ofExcept_rename _)
          | lambda => exact (congrArg _ (Shape.ofLambda_rename operands)).trans (Shape.ofExcept_rename _)
          | «if» => exact (congrArg _ (Shape.ofIf_rename operands)).trans (Shape.ofExcept_rename _)
  | _ => rfl

theorem Value.Within.shape {expr : Value} (within : expr.Within ids) : expr.shape.Within ids := by
  have fits := expr.fits_shape
  generalize expr.shape = shape at fits
  cases fits with
  | self => exact within
  | quote => exact within.2.1
  | define | lambda => exact within.2.2.1
  | branch => exact ⟨within.2.1, within.2.2.1, within.2.2.2.1⟩
  | call => exact within
  | symbol | misshapen | mark => trivial

/-! ### Functions -/

namespace Builtin

variable (tag : Builtin) (items : List Value)

theorem integerOperands_rename :
    tag.integerOperands (Value.ofList (items.map (Value.rename map)))
      = renameCheck map id (tag.integerOperands (Value.ofList items)) := by
  rw [integerOperands, integerOperands, checkArguments_ofList, checkArguments_ofList, List.length_map,
    ← Value.rename_ofList]
  by_cases counted : items.length = tag.arity
  · rw [if_pos counted, if_pos counted]
    rcases items with _ | ⟨first, _ | ⟨second, _ | ⟨third, rest⟩⟩⟩
    · rfl
    · cases first <;> rfl
    · cases first <;> cases second <;> rfl
    · cases first <;> cases second <;> rfl
  · rw [if_neg counted, if_neg counted]
    rfl

theorem checkRange_rename (number : Int) :
    tag.checkRange number = renameCheck map (Value.rename map) (tag.checkRange number) := by
  unfold checkRange
  split
  · rfl
  · split <;> rfl

theorem arithmetic_rename (compute : Int → Int → Int) :
    tag.arithmetic compute (Value.ofList (items.map (Value.rename map)))
      = renameCheck map (Value.rename map) (tag.arithmetic compute (Value.ofList items)) := by
  rw [arithmetic, integerOperands_rename]
  exact renameCheck_bind fun operands => tag.checkRange_rename _

/-- **A built-in treats renamed arguments alike**, and prints the same. -/
theorem apply_rename :
    tag.apply (Value.ofList (items.map (Value.rename map)))
      = renameCheck map (Prod.map (Value.rename map) id) (tag.apply (Value.ofList items)) := by
  cases tag with
  | add | sub | mul =>
      rw [apply, arithmetic_rename]
      exact renameCheck_bind fun result => rfl
  | eq =>
      rw [apply, integerOperands_rename]
      exact renameCheck_bind fun operands => rfl
  | println =>
      rw [apply_println, apply_println, List.length_map]
      rcases items with _ | ⟨first, _ | ⟨second, rest⟩⟩
      · rfl
      · show Except.ok (Value.nil, (first.rename map).render ++ "\n") = _
        rw [Value.render_rename]
        rfl
      · rfl

end Builtin

/-- The closure with the scopes renamed that it captured. -/
def Closure.rename (map : Int → Int) (closure : Closure) : Closure :=
  ⟨closure.params, closure.body.rename map, closure.path.rename map⟩

@[simp] theorem Closure.arity_rename (closure : Closure) :
    (closure.rename map).arity = closure.arity := rfl

namespace Callable

/-- The callable with the scopes renamed that a closure captured. -/
def rename (map : Int → Int) : Callable → Callable
  | .builtin tag => .builtin tag
  | .closure procedure => .closure (procedure.rename map)

theorem ofValue_rename (value form : Value) :
    ofValue (value.rename map) (form.rename map)
      = renameCheck map (rename map) (ofValue value form) := by
  cases value <;> rfl

end Callable

end SmallLisp
