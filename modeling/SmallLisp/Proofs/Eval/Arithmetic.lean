/-
**Integer arithmetic.**

`Arithmetic.Tree` is the syntax of nested integer arithmetic: numbers in the signed 64-bit range, joined by
`+`, `-` and `*`. A tree has an exact value, computed without any bound, and so has each of its parts.

* `Operation.apply_eq`: on numbers in range, a built-in gives its exact result or refuses it;
* `eval_call`: a call of a built-in by its name evaluates its operands and applies it, whatever the store
  binds the name to;
* `Tree.ends`: a tree evaluates to its exact value if all its parts are in range; otherwise the first part
  that is not, from left to right and from the leaves up, is reported.
-/

import SmallLisp.Proofs.Eval.Arguments
import SmallLisp.Proofs.Eval.Builtin
import SmallLisp.Proofs.Eval.Rules

namespace SmallLisp.Arithmetic

/-! ### The three operations -/

/-- The operations of integer arithmetic. -/
inductive Operation where
  | add
  | sub
  | mul
  deriving DecidableEq, Repr

namespace Operation

/-- The built-in that carries out an operation. -/
def tag : Operation → Builtin
  | .add => .add
  | .sub => .sub
  | .mul => .mul

/-- The exact result of an operation. -/
def compute : Operation → Int → Int → Int
  | .add => (· + ·)
  | .sub => (· - ·)
  | .mul => (· * ·)

/-- **A result is exact or refused.** On numbers in range, no result is too long to be reported. -/
theorem apply_eq (operation : Operation) {left right : Int} (leftRange : inIntRange left)
    (rightRange : inIntRange right) :
    operation.tag.apply (Value.ofList [.int left, .int right]) =
      if inIntRange (operation.compute left right) then .ok (.int (operation.compute left right), "")
      else .error (.overflow operation.tag (operation.compute left right)) := by
  have checked : operation.tag.apply (Value.ofList [.int left, .int right]) = (do
      return (← operation.tag.checkRange (operation.compute left right), "")) := by
    cases operation <;> rfl
  have short : operation.tag.apply (Value.ofList [.int left, .int right]) ≠ .error .resultTooLong := by
    refine Builtin.apply_ne_resultTooLong fun number member => ?_
    simp only [List.mem_cons, Value.int.injEq, List.not_mem_nil, or_false] at member
    rcases member with rfl | rfl
    · exact leftRange
    · exact rightRange
  rw [checked, Builtin.checkRange] at short ⊢
  by_cases range : inIntRange (operation.compute left right)
  · rw [if_pos range, if_pos range]
    rfl
  · rw [if_neg range] at short ⊢
    rw [if_neg range]
    by_cases writable : Text.isWritable (operation.compute left right)
    · rw [if_pos writable]
      rfl
    · rw [if_neg writable] at short
      exact absurd rfl short

end Operation

/-! ### Trees -/

/-- Nested integer arithmetic over numbers in range. -/
inductive Tree where
  | number (value : Int) (inRange : inIntRange value)
  | combine (operation : Operation) (left right : Tree)

namespace Tree

/-- The expression that a tree stands for. -/
def expr : Tree → Value
  | .number value _ => .int value
  | .combine operation left right => Value.ofList [.sym operation.tag.name, left.expr, right.expr]

/-- The exact value. -/
def exact : Tree → Int
  | .number value _ => value
  | .combine operation left right => operation.compute left.exact right.exact

/-- How deeply the evaluation of a tree is nested. -/
def height : Tree → Nat
  | .number _ _ => 1
  | .combine _ left right => max left.height right.height + 1

/-- All parts of a tree, from left to right and each behind its own parts. -/
def parts : Tree → List Tree
  | .number value inRange => [.number value inRange]
  | .combine operation left right => left.parts ++ right.parts ++ [.combine operation left right]

/-- The first part whose exact value is out of range. -/
def firstOutside? (tree : Tree) : Option Tree := tree.parts.find? fun part => !inIntRange part.exact

theorem firstOutside?_eq_none_iff {tree : Tree} :
    tree.firstOutside? = none ↔ ∀ part ∈ tree.parts, inIntRange part.exact := by
  simp [firstOutside?]

theorem firstOutside?_number (value : Int) (inRange : inIntRange value) :
    (number value inRange).firstOutside? = none := by
  simp [firstOutside?, parts, exact, inRange]

theorem firstOutside?_combine (operation : Operation) (left right : Tree) :
    (combine operation left right).firstOutside? =
      left.firstOutside?.or (right.firstOutside?.or
        (if inIntRange (operation.compute left.exact right.exact) then none
         else some (combine operation left right))) := by
  have last : [combine operation left right].find? (fun part => !inIntRange part.exact) =
      if inIntRange (operation.compute left.exact right.exact) then none
      else some (combine operation left right) := by
    by_cases range : inIntRange (operation.compute left.exact right.exact) <;> simp [exact, range]
  rw [firstOutside?, parts, List.find?_append, List.find?_append, Option.or_assoc, last]
  rfl

theorem height_pos (tree : Tree) : 0 < tree.height := by
  cases tree with
  | number => exact Nat.one_pos
  | combine => exact Nat.succ_pos _

theorem inIntRange_exact {tree : Tree} (none : tree.firstOutside? = none) : inIntRange tree.exact := by
  refine firstOutside?_eq_none_iff.mp none tree ?_
  cases tree <;> simp [parts]

end Tree

/-! ### Evaluation -/

section Calls

variable (tag : Builtin) {path : ScopePath} {depth : Nat} (deep : 0 < depth)
include deep

/-- The name of a built-in stands for it, whatever the store binds the name to. -/
theorem evalValue_name (world : World) :
    evalValue (eval depth) (.sym tag.name) path world = .ok (.builtin tag) world := by
  obtain ⟨depth, rfl⟩ := Nat.exists_eq_succ_of_ne_zero deep.ne'
  have named : eval (depth + 1) (.sym tag.name) path = pure (.builtin tag) :=
    evalSymbol_builtin tag path
  refine evalValue_of_ok ?_ nofun
  rw [named]
  rfl

variable {world middle later : World} {left right : Value}

/-- **A call evaluates its two operands and applies the built-in.** -/
theorem eval_call :
    eval (depth + 1) (Value.ofList [.sym tag.name, left, right]) path world
      = (mapArguments (eval depth) path (Value.ofList [left, right]) >>= tag.invoke) world := by
  have ordinary : SpecialForm.ofOperator? (.sym tag.name) = none := by
    cases tag <;> rfl
  show evalStep (eval depth) (.pair (.sym tag.name) (Value.ofList [left, right])) path world = _
  rw [evalStep_eq_mapped, evalStepMapped, ordinary]
  show evalCallMapped (eval depth) _ (.sym tag.name) (Value.ofList [left, right]) path world = _
  rw [evalCallMapped, bind_of_ok (evalValue_name tag deep world)]
  exact bind_of_ok (EvalM.ofExcept_ok (Callable.builtin tag) world)

theorem eval_call_of_left {fault : Fault} (failed : eval depth left path world = .error fault later) :
    eval (depth + 1) (Value.ofList [.sym tag.name, left, right]) path world = .error fault later := by
  rw [eval_call tag deep]
  exact bind_of_error (mapArguments_of_failed _ _ (.nil world) failed [right])

section Given

variable {one : Value} (first : eval depth left path world = .ok one middle) (known : one ≠ .void)
include first known

theorem eval_call_of_right {fault : Fault} (failed : eval depth right path middle = .error fault later) :
    eval (depth + 1) (Value.ofList [.sym tag.name, left, right]) path world = .error fault later := by
  have given := evalValue_of_ok first known
  rw [eval_call tag deep]
  exact bind_of_error (mapArguments_of_failed _ _ (.cons given (.nil middle)) failed [])

theorem eval_call_of_values {other : Value} (second : eval depth right path middle = .ok other later)
    (known' : other ≠ .void) :
    eval (depth + 1) (Value.ofList [.sym tag.name, left, right]) path world
      = tag.invoke (Value.ofList [one, other]) later := by
  have each : mapArguments (eval depth) path (Value.ofList [left, right]) world
      = .ok (Value.ofList [one, other]) later := by
    refine Value.mapList_eq_ok_iff.mpr ⟨[left, right], [one, other], rfl, ?_, rfl⟩
    exact .cons (evalValue_of_ok first known) (.cons (evalValue_of_ok second known') (.nil later))
  rw [eval_call tag deep, bind_of_ok each]

end Given

theorem eval_call_of_numbers (operation : Operation) {one other : Int} (oneRange : inIntRange one)
    (otherRange : inIntRange other) (first : eval depth left path world = .ok (.int one) middle)
    (second : eval depth right path middle = .ok (.int other) later) :
    eval (depth + 1) (Value.ofList [.sym operation.tag.name, left, right]) path world =
      if inIntRange (operation.compute one other) then .ok (.int (operation.compute one other)) later
      else .error (.overflow operation.tag (operation.compute one other)) later := by
  rw [eval_call_of_values operation.tag deep first nofun second nofun, Builtin.invoke,
    operation.apply_eq oneRange otherRange]
  by_cases range : inIntRange (operation.compute one other)
  · rw [if_pos range, if_pos range]
    show EStateM.Result.ok _ { later with output := later.output ++ "" } = _
    rw [String.append_empty]
  · rw [if_neg range, if_neg range]
    rfl

end Calls

/-- How the evaluation of a tree ends, by the first part that is out of range. -/
def Tree.Ends (tree : Tree) (depth : Nat) (path : ScopePath) (world : World) : Prop :=
  match tree.firstOutside? with
  | none => eval depth tree.expr path world = .ok (.int tree.exact) world
  | some part => ∃ operation left right, part = .combine operation left right ∧
      eval depth tree.expr path world = .error (.overflow operation.tag part.exact) world

/-- **A tree ends with its exact value or with the first part that is out of range.** -/
theorem Tree.ends (tree : Tree) (path : ScopePath) (world : World) {depth : Nat}
    (deep : tree.height ≤ depth) : tree.Ends depth path world := by
  induction tree generalizing depth with
  | number value inRange =>
      obtain ⟨below, rfl⟩ := Nat.exists_eq_add_of_le' deep
      rw [Ends, firstOutside?_number]
      rfl
  | combine operation left right leftEnds rightEnds =>
      obtain ⟨below, rfl⟩ := Nat.exists_eq_add_of_le' ((Nat.le_add_left 1 _).trans deep)
      have enough : max left.height right.height ≤ below := Nat.le_of_succ_le_succ deep
      have positive : 0 < below := left.height_pos.trans_le ((le_max_left _ _).trans enough)
      have first := leftEnds ((le_max_left _ _).trans enough)
      have second := rightEnds ((le_max_right _ _).trans enough)
      unfold Ends at first second ⊢
      rw [firstOutside?_combine]
      cases leftOutside : left.firstOutside? with
      | some part =>
          rw [leftOutside] at first
          obtain ⟨inner, one, other, isCall, failed⟩ := first
          exact ⟨inner, one, other, isCall, eval_call_of_left operation.tag positive failed⟩
      | none =>
          rw [leftOutside] at first
          cases rightOutside : right.firstOutside? with
          | some part =>
              rw [rightOutside] at second
              obtain ⟨inner, one, other, isCall, failed⟩ := second
              exact ⟨inner, one, other, isCall,
                eval_call_of_right operation.tag positive first nofun failed⟩
          | none =>
              rw [rightOutside] at second
              have ended := eval_call_of_numbers positive operation (inIntRange_exact leftOutside)
                (inIntRange_exact rightOutside) first second
              by_cases range : inIntRange (operation.compute left.exact right.exact)
              · rw [if_pos range] at ended ⊢
                exact ended
              · rw [if_neg range] at ended ⊢
                exact ⟨operation, left, right, rfl, ended⟩

/-- **Integer arithmetic is exact or refused.** Under every path, in every world and at every depth that
the tree needs: if every part of a tree is in range, the tree evaluates to its exact value; otherwise it
fails with an overflow that reports the operation and the exact result of the first part out of range,
from left to right and from the leaves up. Either way the world stays as it was. -/
theorem arithmetic_exact (tree : Tree) (path : ScopePath) (world : World) {depth : Nat}
    (deep : tree.height ≤ depth) :
    ((∀ part ∈ tree.parts, inIntRange part.exact) →
      eval depth tree.expr path world = .ok (.int tree.exact) world) ∧
    ((¬ ∀ part ∈ tree.parts, inIntRange part.exact) →
      ∃ operation left right, tree.firstOutside? = some (.combine operation left right) ∧
        let fault := Fault.overflow operation.tag (operation.compute left.exact right.exact)
        eval depth tree.expr path world = .error fault world ∧ fault.kind? = some .overflow ∧
        fault.message = "integer overflow in " ++ operation.tag.name ++ ": "
          ++ toString (operation.compute left.exact right.exact)) := by
  have ends := tree.ends path world deep
  unfold Tree.Ends at ends
  rw [← Tree.firstOutside?_eq_none_iff]
  cases outside : tree.firstOutside? with
  | none =>
      rw [outside] at ends
      exact ⟨fun _ => ends, fun some => absurd rfl some⟩
  | some part =>
      rw [outside] at ends
      obtain ⟨operation, left, right, rfl, failed⟩ := ends
      exact ⟨nofun, fun _ => ⟨operation, left, right, rfl, failed, rfl, rfl⟩⟩

/-- `(- (* 4611686018427387904 2) 1)`, whose product is one more than the greatest integer. -/
def productTooLarge : Tree :=
  .combine .sub (.combine .mul (.number 4611686018427387904 rfl) (.number 2 rfl)) (.number 1 rfl)

/-- The product is reported although the difference is in range again, and although the store binds `*`
to something else. -/
theorem arithmetic_exact_product :
    let world : World := ⟨⟨#[⟨[("*", .nil)]⟩], by decide⟩, "before"⟩
    inIntRange productTooLarge.exact ∧
      eval 3 productTooLarge.expr .top world = .error (.overflow .mul 9223372036854775808) world := by
  intro world
  have first : productTooLarge.firstOutside?
      = some (.combine .mul (.number 4611686018427387904 rfl) (.number 2 rfl)) := rfl
  have outside : ¬ ∀ part ∈ productTooLarge.parts, inIntRange part.exact := by
    rw [← Tree.firstOutside?_eq_none_iff, first]
    nofun
  obtain ⟨operation, left, right, found, failed, -⟩ :=
    (arithmetic_exact productTooLarge .top world (le_refl 3)).2 outside
  rw [first] at found
  cases found
  exact ⟨rfl, failed⟩

end SmallLisp.Arithmetic
