/-
**What an evaluation can fail with.**

Evaluation never fails with a fault of reading, whatever the expression, the path and the world: the
faults of a session that are about text come from its texts alone (`raises_eval`). `Raises` states
which faults a computation can end with, with one rule for each way in which computations are built.
-/

import SmallLisp.Proofs.Eval.Builtin
import SmallLisp.Proofs.Eval.Outcome
import SmallLisp.Proofs.Eval.Shape
import SmallLisp.Proofs.Reader.Reads
import SmallLisp.Proofs.Scope.Lookup

namespace SmallLisp

/-- Every fault that a computation can end with is `allowed`. -/
def Raises {α : Type} (allowed : Fault → Prop) (computation : EvalM α) : Prop :=
  ∀ world, Ensures computation world (fun _ _ => True) (fun fault _ => allowed fault)

/-- A fault that has nothing to do with reading. -/
def Fault.OffReading (fault : Fault) : Prop := fault.isReading = false

namespace Raises

variable {α β : Type} {allowed : Fault → Prop}

theorem pure (value : α) : Raises allowed (Pure.pure value) := fun _ => trivial

theorem throw {fault : Fault} (known : allowed fault) :
    Raises allowed (MonadExcept.throw fault : EvalM α) := fun _ => known

theorem bind {first : EvalM α} {next : α → EvalM β} (one : Raises allowed first)
    (rest : ∀ value, Raises allowed (next value)) : Raises allowed (first >>= next) := by
  intro world
  rw [ensures_bind]
  exact Ensures.mono (one world) (fun value later _ => rest value later) fun _ _ known => known

theorem check {check : Except Fault α} (known : ∀ fault, check = .error fault → allowed fault) :
    Raises allowed (EvalM.ofExcept check) :=
  fun _ => ensures_ofExcept.mpr ⟨fun _ _ => trivial, known⟩

end Raises

/-! ### Checks on the form of an expression -/

theorem offReading_splitHead {value : Value} {fault : Fault}
    (failed : value.splitHead = .error fault) : fault.OffReading := by
  cases value <;> cases failed <;> rfl

theorem offReading_head {value : Value} {fault : Fault} (failed : value.head = .error fault) :
    fault.OffReading := by
  rcases bind_eq_error_iff.mp failed with first | ⟨parts, -, failed⟩
  · exact offReading_splitHead first
  · cases failed

theorem offReading_take2 {value : Value} {fault : Fault} (failed : value.take2 = .error fault) :
    fault.OffReading := by
  rcases bind_eq_error_iff.mp failed with first | ⟨parts, -, failed⟩
  · exact offReading_splitHead first
  rcases bind_eq_error_iff.mp failed with second | ⟨more, -, failed⟩
  · exact offReading_splitHead second
  · cases failed

theorem offReading_take3 {value : Value} {fault : Fault} (failed : value.take3 = .error fault) :
    fault.OffReading := by
  rcases bind_eq_error_iff.mp failed with first | ⟨parts, -, failed⟩
  · exact offReading_splitHead first
  rcases bind_eq_error_iff.mp failed with second | ⟨more, -, failed⟩
  · exact offReading_splitHead second
  rcases bind_eq_error_iff.mp failed with third | ⟨last, -, failed⟩
  · exact offReading_splitHead third
  · cases failed

theorem offReading_elements {value : Value} {fault : Fault}
    (failed : value.elements = .error fault) : fault.OffReading := by
  cases Value.elements_eq_error failed
  rfl

theorem offReading_length {value : Value} {fault : Fault} (failed : value.length = .error fault) :
    fault.OffReading := by
  cases Value.length_eq_error failed
  rfl

theorem offReading_of_shape {fault : Fault} (known : fault.kind? = some .shape) :
    fault.OffReading := by
  cases fault <;> first | rfl | cases known

theorem offReading_of_isArithmeticFault {fault : Fault} (known : Builtin.isArithmeticFault fault) :
    fault.OffReading := by
  cases fault <;> first | rfl | cases known

/-! ### Evaluation -/

theorem raises_evalSymbol (name : String) (path : ScopePath) :
    Raises Fault.OffReading (evalSymbol name path) := by
  unfold evalSymbol
  split
  · exact .pure _
  · refine Raises.bind ?_ fun found => ?_
    · refine fun world => ensures_resolve.mpr ⟨fun _ _ => trivial, fun fault failed => ?_⟩
      obtain ⟨-, id, -, -, ⟨-, rfl⟩, -⟩ := ScopeStore.resolve_eq_error_iff.mp failed
      rfl
    · split
      · exact .throw rfl
      · exact .throw rfl
      · exact .pure _

section Parts

variable {evaluate : Evaluator}
  (parts : ∀ expr path, Raises Fault.OffReading (evaluate expr path))
include parts

theorem raises_evalDefine (operands : Value) (path : ScopePath) :
    Raises Fault.OffReading (evalDefine evaluate operands path) := by
  refine (Raises.check fun _ => offReading_length).bind fun count => ?_
  split
  · exact .throw rfl
  · refine (Raises.check fun _ => offReading_take2).bind fun (target, operand) => ?_
    cases target with
    | sym name =>
        refine (parts operand path).bind fun value => ?_
        have bound : ∀ value, Raises Fault.OffReading (do
            EvalM.define path.current name value
            return Value.void) := by
          refine fun value => Raises.bind (fun world => ensures_define.mpr ?_) fun _ => .pure _
          split
          · trivial
          · rfl
        cases value with
        | void => exact .throw rfl
        | _ => exact bound _
    | _ => exact .throw rfl

theorem raises_evalIf (operands : Value) (path : ScopePath) :
    Raises Fault.OffReading (evalIf evaluate operands path) := by
  refine (Raises.check fun _ => offReading_length).bind fun count => ?_
  split
  · exact .throw rfl
  · refine (Raises.check fun _ => offReading_take3).bind fun (condition, whenTrue, whenFalse) => ?_
    refine (parts condition path).bind fun value => ?_
    cases value with
    | bool selected =>
        cases selected with
        | true => exact parts whenTrue path
        | false => exact parts whenFalse path
    | _ => exact .throw rfl

theorem raises_evalArguments (path : ScopePath) (items done : List Value) :
    Raises Fault.OffReading (evalArguments evaluate path items done) := by
  induction items generalizing done with
  | nil => exact .pure _
  | cons item rest ih =>
      refine (parts item path).bind fun value => ?_
      cases value with
      | void => exact .throw rfl
      | _ => exact ih _

theorem raises_call (callable : Callable) (arguments : List Value) :
    Raises Fault.OffReading (callable.call evaluate (Value.ofList arguments)) := by
  cases callable with
  | builtin tag =>
      refine fun world => ensures_invoke.mpr ⟨fun _ _ _ => trivial, fun fault failed => ?_⟩
      exact offReading_of_isArithmeticFault (Builtin.apply_error failed).1
  | closure procedure =>
      refine Raises.bind ?_ fun inner => parts _ inner
      refine Raises.bind (.check fun fault failed => ?_) fun scope world => trivial
      rcases bind_eq_error_iff.mp failed with listed | ⟨values, -, failed⟩
      · exact offReading_elements listed
      · split at failed <;> cases failed
        rfl

theorem raises_evalCall (form operator operands : Value) (path : ScopePath) :
    Raises Fault.OffReading (evalCall evaluate form operator operands path) := by
  rw [evalCall_eq]
  refine Raises.bind ?_ fun value => Raises.bind (.check fun fault failed => ?_) fun callable =>
    (Raises.check fun _ => offReading_elements).bind fun items =>
      (raises_evalArguments parts path items []).bind fun arguments =>
        raises_call parts callable arguments
  · refine (parts operator path).bind fun value => ?_
    cases value with
    | void => exact .throw rfl
    | _ => exact .pure _
  · cases value <;> cases failed <;> rfl

end Parts

theorem raises_evalLambda (operands : Value) (path : ScopePath) :
    Raises Fault.OffReading (evalLambda operands path) := by
  refine (Raises.check fun _ => offReading_length).bind fun count => ?_
  split
  · exact .throw rfl
  · refine (Raises.check fun _ => offReading_take2).bind fun (params, body) => ?_
    refine (Raises.check fun _ => offReading_elements).bind fun items => ?_
    refine (Raises.check fun _ failed => ?_).bind fun names world => trivial
    exact offReading_of_shape (parameterNames_error failed)

/-- **Evaluation never fails with a fault of reading.** -/
theorem raises_eval (depth : Nat) (expr : Value) (path : ScopePath) :
    Raises Fault.OffReading (eval depth expr path) := by
  induction depth generalizing expr path with
  | zero => exact .throw rfl
  | succ depth ih =>
      cases expr with
      | sym name => exact raises_evalSymbol name path
      | void | foreign => exact .throw rfl
      | pair operator operands =>
          dsimp only [eval_succ, evalStep]
          cases SpecialForm.ofOperator? operator with
          | none => exact raises_evalCall ih _ operator operands path
          | some form =>
              cases form with
              | quote => exact .check fun _ => offReading_head
              | define => exact raises_evalDefine ih operands path
              | lambda => exact raises_evalLambda operands path
              | «if» => exact raises_evalIf ih operands path
      | _ => exact .pure _

end SmallLisp
