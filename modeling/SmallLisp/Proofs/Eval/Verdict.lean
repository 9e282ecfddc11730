/-
**How a built-in ends.**

A built-in is given one value, which may be any. There are five verdicts on it, from the first check to
the last: it is no proper list, it has the wrong number of elements, an operand of arithmetic is no
integer, the exact result is out of range, or there is a result. `Verdict.Due` says when each is due, by
what the value is and not by how it is checked; `Verdict.outcome` says what an invocation then ends with.

* `exists_due`: the conditions leave no gap;
* `invoke_of_due`: the verdict that is due is the one that is given, so no two are due at once;
* `invoke_eq_outcome_iff`: an invocation ends with the outcome of a verdict if and only if it is due.
-/

import SmallLisp.Proofs.Eval.Arithmetic

namespace SmallLisp

/-- Whether all integers in a value, in the bodies of closures too, are in range. -/
def Value.integersInRange : Value → Bool
  | .int number => inIntRange number
  | .pair first rest => first.integersInRange && rest.integersInRange
  | .lambda _ body _ => body.integersInRange
  | _ => true

theorem Value.inIntRange_of_mem {items : List Value} (small : (ofList items).integersInRange)
    {number : Int} (member : .int number ∈ items) : inIntRange number := by
  induction items with
  | nil => cases member
  | cons item items ih =>
      obtain ⟨first, others⟩ := (Bool.and_eq_true _ _).mp small
      rcases List.mem_cons.mp member with rfl | later
      · exact first
      · exact ih others later

namespace Builtin

/-! ### The refusals -/

section Refusals

variable {tag : Builtin} {arguments : Value} {fault : Fault}

theorem apply_of_refused (refused : tag.checkArguments arguments = .error fault) :
    tag.apply arguments = .error fault := by
  cases tag <;> simp only [apply, arithmetic, integerOperands, refused] <;> rfl

theorem apply_improper (improper : ¬ ∃ items, arguments = Value.ofList items) :
    tag.apply arguments = .error (.argumentsNotAList arguments) := by
  refine apply_of_refused ?_
  rw [checkArguments, if_neg (mt Value.isList_iff.mp improper)]

variable {items : List Value}

theorem apply_miscounted (miscounted : items.length ≠ tag.arity) :
    tag.apply (Value.ofList items) = .error (.arity tag.name tag.arity items.length) := by
  refine apply_of_refused ?_
  rw [checkArguments_ofList, if_neg miscounted]

theorem integerOperands_mistyped (counted : items.length = tag.arity)
    (mistyped : ∃ item ∈ items, item.isInteger = false) :
    tag.integerOperands (Value.ofList items) = .error (.operandTypes tag (Value.ofList items)) := by
  have checked : tag.checkArguments (Value.ofList items) = .ok items := by
    rw [checkArguments_ofList, if_pos counted]
  obtain ⟨item, member, other⟩ := mistyped
  refine bind_eq_error_iff.mpr (.inr ⟨items, checked, ?_⟩)
  split
  · simp only [List.mem_cons, List.not_mem_nil, or_false] at member
    rcases member with rfl | rfl <;> cases other
  · rfl

theorem apply_mistyped (arithmetical : tag ≠ .println) (counted : items.length = tag.arity)
    (mistyped : ∃ item ∈ items, item.isInteger = false) :
    tag.apply (Value.ofList items) = .error (.operandTypes tag (Value.ofList items)) := by
  have refused := integerOperands_mistyped counted mistyped
  cases tag with
  | println => exact absurd rfl arithmetical
  | add | sub | mul | eq =>
      simp only [apply, arithmetic, refused]
      rfl

end Refusals

/-! ### Verdicts -/

/-- What can be said about the arguments of a built-in: they are no proper list, they are so many, one of
them is no integer, their exact result is out of range, or they give a result and a text to print. -/
inductive Verdict where
  | notAList
  | count (found : Nat)
  | types
  | range (result : Int)
  | gives (value : Value) (text : String)

variable {tag : Builtin} {arguments : Value}

namespace Verdict

/-- **When a verdict is due.** -/
def Due (tag : Builtin) (arguments : Value) : Verdict → Prop
  | .notAList => ¬ ∃ items, arguments = .ofList items
  | .count found => found ≠ tag.arity ∧ ∃ items, arguments = .ofList items ∧ items.length = found
  | .types => tag ≠ .println ∧ ∃ items, arguments = .ofList items ∧ items.length = tag.arity ∧
      ∃ item ∈ items, item.isInteger = false
  | .range result => ∃ (operation : Arithmetic.Operation) (left right : Int), tag = operation.tag ∧
      arguments = .ofList [.int left, .int right] ∧ result = operation.compute left right ∧
      ¬ inIntRange result
  | .gives value text => ∃ items, arguments = .ofList items ∧ tag.Gives items value text

/-- **What an invocation ends with.** A refusal leaves the world as it was. -/
def outcome (tag : Builtin) (arguments : Value) (world : World) :
    Verdict → EStateM.Result Fault World Value
  | .notAList => .error (.argumentsNotAList arguments) world
  | .count found => .error (.arity tag.name tag.arity found) world
  | .types => .error (.operandTypes tag arguments) world
  | .range result => .error (.overflow tag result) world
  | .gives value text => .ok value { world with output := world.output ++ text }

/-- The kind of fault that a refusal is reported as. -/
def kind? : Verdict → Option Kind
  | .notAList => some .shape
  | .count _ => some .arity
  | .types => some .type
  | .range _ => some .overflow
  | .gives _ _ => none

theorem kind?_of_outcome {world later : World} {fault : Fault} (verdict : Verdict)
    (failed : verdict.outcome tag arguments world = .error fault later) :
    later = world ∧ fault.kind? = verdict.kind? := by
  cases verdict <;> cases failed <;> exact ⟨rfl, rfl⟩

theorem outcome_injective (tag : Builtin) (arguments : Value) (world : World) :
    Function.Injective (outcome tag arguments world) := by
  intro one other same
  cases one <;> cases other <;> simp_all [outcome]

end Verdict

/-- Two operands that are integers are due for a result, or for a refusal by its range. -/
theorem exists_due_integers (arithmetical : tag ≠ .println) (left right : Int) :
    ∃ verdict : Verdict, verdict.Due tag (Value.ofList [.int left, .int right]) := by
  have computed : ∀ operation : Arithmetic.Operation,
      ∃ verdict : Verdict, verdict.Due operation.tag (Value.ofList [.int left, .int right]) := by
    intro operation
    by_cases range : inIntRange (operation.compute left right)
    · refine ⟨.gives (.int (operation.compute left right)) "", _, rfl, ?_⟩
      cases operation <;> constructor <;> exact range
    · exact ⟨.range _, operation, left, right, rfl, rfl, rfl, range⟩
  cases tag with
  | add => exact computed .add
  | sub => exact computed .sub
  | mul => exact computed .mul
  | eq => exact ⟨.gives _ _, _, rfl, .eq left right⟩
  | println => exact absurd rfl arithmetical

/-- **The verdicts leave no gap.** -/
theorem exists_due (tag : Builtin) (arguments : Value) :
    ∃ verdict : Verdict, verdict.Due tag arguments := by
  by_cases proper : ∃ items, arguments = Value.ofList items
  case neg => exact ⟨.notAList, proper⟩
  obtain ⟨items, rfl⟩ := proper
  by_cases counted : items.length = tag.arity
  case neg => exact ⟨.count items.length, counted, items, rfl, rfl⟩
  by_cases printing : tag = .println
  · subst printing
    obtain ⟨value, rfl⟩ := List.length_eq_one_iff.mp counted
    exact ⟨.gives _ _, _, rfl, .println value⟩
  by_cases mistyped : ∃ item ∈ items, item.isInteger = false
  · exact ⟨.types, printing, items, rfl, counted, mistyped⟩
  have two : tag.arity = 2 := by cases tag <;> simp_all [arity]
  obtain ⟨first, second, rfl⟩ := List.length_eq_two.mp (counted.trans two)
  have integer : ∀ item ∈ [first, second], ∃ number, item = .int number := by
    intro item member
    cases item with
    | int number => exact ⟨number, rfl⟩
    | _ => exact absurd ⟨_, member, rfl⟩ mistyped
  obtain ⟨left, rfl⟩ := integer first (by simp)
  obtain ⟨right, rfl⟩ := integer second (by simp)
  exact exists_due_integers printing left right

section Integers

variable (small : arguments.integersInRange)
include small

/-- **The verdict that is due is given.** -/
theorem invoke_of_due {verdict : Verdict} (due : verdict.Due tag arguments) (world : World) :
    tag.invoke arguments world = verdict.outcome tag arguments world := by
  have failed : ∀ {fault}, tag.apply arguments = .error fault →
      tag.invoke arguments world = .error fault world := fun refused => by
    rw [invoke, refused]
    rfl
  cases verdict with
  | notAList => exact failed (apply_improper due)
  | count found =>
      obtain ⟨miscounted, items, rfl, rfl⟩ := due
      exact failed (apply_miscounted miscounted)
  | types =>
      obtain ⟨arithmetical, items, rfl, counted, mistyped⟩ := due
      exact failed (apply_mistyped arithmetical counted mistyped)
  | range number =>
      obtain ⟨operation, left, right, rfl, rfl, rfl, outside⟩ := due
      have leftRange : inIntRange left := Value.inIntRange_of_mem small (by simp)
      have rightRange : inIntRange right := Value.inIntRange_of_mem small (by simp)
      refine failed ?_
      rw [operation.apply_eq leftRange rightRange, if_neg outside]
  | gives value text =>
      obtain ⟨items, rfl, gives⟩ := due
      exact invoke_of_gives gives world

/-- **An invocation ends with the outcome of a verdict if and only if it is due.** -/
theorem invoke_eq_outcome_iff (tag : Builtin) (verdict : Verdict) (world : World) :
    tag.invoke arguments world = verdict.outcome tag arguments world ↔ verdict.Due tag arguments := by
  refine ⟨fun ended => ?_, fun due => invoke_of_due small due world⟩
  obtain ⟨given, due⟩ := exists_due tag arguments
  have same := ended.symm.trans (invoke_of_due small due world)
  rwa [Verdict.outcome_injective tag arguments world same]

end Integers

/-- **Every invocation of a built-in ends in one of five ways**, for every value that is given to it and
whose integers are in range:

* exactly one verdict is due, and the invocation ends with the outcome of a verdict if and only if that
  verdict is due;
* it fails with a fault of some kind if and only if a verdict of that kind is due;
* an invocation that fails changes nothing, so it prints nothing. -/
theorem builtin_outcomes (tag : Builtin) (arguments : Value) (world : World)
    (small : arguments.integersInRange) :
    (∃! verdict : Verdict, verdict.Due tag arguments) ∧
    (∀ verdict : Verdict, tag.invoke arguments world = verdict.outcome tag arguments world ↔
      verdict.Due tag arguments) ∧
    (∀ kind, (∃ fault later, tag.invoke arguments world = .error fault later ∧ fault.kind? = some kind) ↔
      ∃ verdict : Verdict, verdict.kind? = some kind ∧ verdict.Due tag arguments) ∧
    ∀ fault later, tag.invoke arguments world = .error fault later → later = world := by
  have ends := fun verdict => invoke_eq_outcome_iff small tag verdict world
  obtain ⟨given, due⟩ := exists_due tag arguments
  have ended := (ends given).mpr due
  refine ⟨⟨given, due, fun other due' => ?_⟩, ends, fun kind => ⟨?_, ?_⟩, fun fault later failed => ?_⟩
  · exact Verdict.outcome_injective tag arguments world (((ends other).mpr due').symm.trans ended)
  · rintro ⟨fault, later, failed, known⟩
    have same := (Verdict.kind?_of_outcome given (ended.symm.trans failed)).2
    exact ⟨given, same ▸ known, due⟩
  · rintro ⟨verdict, known, due'⟩
    have ended' := (ends verdict).mpr due'
    cases verdict with
    | gives => cases known
    | _ => exact ⟨_, _, ended', known⟩
  · exact (Verdict.kind?_of_outcome given (ended.symm.trans failed)).1

/-- The least integer times minus one is one more than the greatest integer; at the head of an improper
list, the same two are refused for that reason alone. -/
theorem builtin_outcomes_leastNegated :
    let operands : List Value := [.int minInt, .int (-1)]
    let world : World := ⟨.initial, "before"⟩
    (Value.ofList operands).integersInRange ∧ (Value.chain operands .void).integersInRange ∧
      invoke .mul (.ofList operands) world = .error (.overflow .mul 9223372036854775808) world ∧
      invoke .mul (.chain operands .void) world
        = .error (.argumentsNotAList (.chain operands .void)) world := by
  intro operands world
  have small : (Value.ofList operands).integersInRange := by decide
  have small' : (Value.chain operands .void).integersInRange := by decide
  obtain ⟨-, proper, -⟩ := builtin_outcomes .mul _ world small
  obtain ⟨-, improper, -⟩ := builtin_outcomes .mul _ world small'
  refine ⟨small, small', (proper (.range 9223372036854775808)).mpr ?_, (improper .notAList).mpr ?_⟩
  · exact ⟨.mul, minInt, -1, rfl, rfl, rfl, by decide⟩
  · rintro ⟨items, same⟩
    have listed : (Value.chain operands .void).isList := same ▸ Value.isList_iff.mpr ⟨items, rfl⟩
    cases listed

end Builtin

end SmallLisp
