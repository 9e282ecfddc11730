/-
**What a built-in can end with.**

A call hands a built-in a proper list. On such a list the checks are the number of arguments, their
types and the range of the result, in this order:

* `apply_eq_ok_iff`: the results are those of `Gives`, which lists them built-in by built-in;
* `apply_ok`: a result is readable, and only `println` prints, namely its argument on a line;
* `apply_error`: an application fails by its arguments' number or types or by the range of its
  result, and `println` never fails on one argument;
* `apply_ne_resultTooLong`: the result of integers in range never has too many digits to be written.
-/

import Mathlib.Data.List.Basic
import SmallLisp.Eval.Builtin
import SmallLisp.Proofs.Reader.Literal
import SmallLisp.Proofs.Value.List

namespace SmallLisp

section Checks

variable {α β : Type} {first : Except Fault α} {next : α → Except Fault β}

theorem bind_eq_ok_iff {result : β} :
    first >>= next = .ok result ↔ ∃ value, first = .ok value ∧ next value = .ok result := by
  cases first <;> simp [bind, Except.bind]

theorem bind_eq_error_iff {fault : Fault} :
    first >>= next = .error fault ↔
      first = .error fault ∨ ∃ value, first = .ok value ∧ next value = .error fault := by
  cases first <;> simp [bind, Except.bind]

end Checks

namespace Builtin

variable {tag : Builtin} {items : List Value}

theorem checkArguments_ofList (tag : Builtin) (items : List Value) :
    tag.checkArguments (Value.ofList items) =
      if items.length = tag.arity then .ok items
      else .error (.arity tag.name tag.arity items.length) := by
  have listed : (Value.ofList items).isList := Value.isList_chain items .nil
  rw [checkArguments, if_pos listed, Value.length_ofList, Value.elements_ofList]
  rfl

/-! ### The results, built-in by built-in -/

/-- What the built-ins give and print. -/
inductive Gives : Builtin → List Value → Value → String → Prop
  | add {left right : Int} (range : inIntRange (left + right)) :
      Gives .add [.int left, .int right] (.int (left + right)) ""
  | sub {left right : Int} (range : inIntRange (left - right)) :
      Gives .sub [.int left, .int right] (.int (left - right)) ""
  | mul {left right : Int} (range : inIntRange (left * right)) :
      Gives .mul [.int left, .int right] (.int (left * right)) ""
  | eq (left right : Int) : Gives .eq [.int left, .int right] (.bool (left = right)) ""
  | println (value : Value) : Gives .println [value] .nil (value.render ++ "\n")

section Results

variable {result : Value}

theorem integerOperands_eq_ok_iff {left right : Int} :
    tag.integerOperands (Value.ofList items) = .ok (left, right) ↔
      tag.arity = 2 ∧ items = [.int left, .int right] := by
  rw [integerOperands, bind_eq_ok_iff, checkArguments_ofList]
  constructor
  · rintro ⟨values, checked, found⟩
    split at checked <;> cases checked
    rename_i counted
    split at found <;> cases found
    exact ⟨counted.symm, rfl⟩
  · rintro ⟨two, rfl⟩
    exact ⟨_, if_pos two.symm, rfl⟩

theorem checkRange_eq_ok_iff {number : Int} :
    tag.checkRange number = .ok result ↔ inIntRange number ∧ result = .int number := by
  unfold checkRange
  by_cases range : inIntRange number
  · rw [if_pos range]
    constructor
    · rintro ⟨⟩
      exact ⟨range, rfl⟩
    · rintro ⟨-, rfl⟩
      rfl
  · rw [if_neg range]
    constructor
    · intro found
      split at found <;> cases found
    · rintro ⟨inside, -⟩
      exact absurd inside range

theorem arithmetic_eq_ok_iff {compute : Int → Int → Int} :
    tag.arithmetic compute (Value.ofList items) = .ok result ↔
      ∃ left right, tag.arity = 2 ∧ items = [.int left, .int right] ∧
        inIntRange (compute left right) ∧ result = .int (compute left right) := by
  rw [arithmetic, bind_eq_ok_iff]
  constructor
  · rintro ⟨⟨left, right⟩, operands, range⟩
    obtain ⟨two, rfl⟩ := integerOperands_eq_ok_iff.mp operands
    exact ⟨left, right, two, rfl, checkRange_eq_ok_iff.mp range⟩
  · rintro ⟨left, right, two, rfl, range⟩
    exact ⟨(left, right), integerOperands_eq_ok_iff.mpr ⟨two, rfl⟩, checkRange_eq_ok_iff.mpr range⟩

theorem silently_eq_ok_iff {check : Except Fault Value} {text : String} :
    (do return (← check, "") : Except Fault (Value × String)) = .ok (result, text) ↔
      check = .ok result ∧ text = "" := by
  rw [bind_eq_ok_iff]
  constructor
  · rintro ⟨value, checked, same⟩
    cases same
    exact ⟨checked, rfl⟩
  · rintro ⟨checked, rfl⟩
    exact ⟨result, checked, rfl⟩

theorem apply_println (items : List Value) :
    apply .println (Value.ofList items) =
      match items with
      | [value] => .ok (.nil, value.render ++ "\n")
      | _ => .error (.arity Builtin.println.name 1 items.length) := by
  rw [apply, checkArguments_ofList]
  rcases items with _ | ⟨value, _ | ⟨other, rest⟩⟩
  · rfl
  · rfl
  · rw [if_neg (by simp [arity])]
    rfl

/-- **A built-in gives what its rule says**, on every list of arguments. -/
theorem apply_eq_ok_iff {text : String} :
    tag.apply (Value.ofList items) = .ok (result, text) ↔ tag.Gives items result text := by
  cases tag with
  | add | sub | mul =>
      rw [apply, silently_eq_ok_iff, arithmetic_eq_ok_iff]
      constructor
      · rintro ⟨⟨left, right, -, rfl, range, rfl⟩, rfl⟩
        constructor
        exact range
      · intro gives
        cases gives
        exact ⟨⟨_, _, rfl, rfl, ‹_›, rfl⟩, rfl⟩
  | eq =>
      rw [apply, bind_eq_ok_iff]
      constructor
      · rintro ⟨⟨left, right⟩, operands, same⟩
        obtain ⟨-, rfl⟩ := integerOperands_eq_ok_iff.mp operands
        cases same
        exact .eq left right
      · intro gives
        cases gives with
        | eq left right =>
            exact ⟨(left, right), integerOperands_eq_ok_iff.mpr ⟨rfl, rfl⟩, rfl⟩
  | println =>
      rw [apply_println]
      constructor
      · intro found
        split at found <;> cases found
        exact .println _
      · intro gives
        cases gives
        rfl

/-- **A result is readable**, and only `println` prints: its one argument, on a line. -/
theorem apply_ok {text : String} (applied : tag.apply (Value.ofList items) = .ok (result, text)) :
    result.isReadable ∧
      ((tag = .println ∧ ∃ value, items = [value] ∧ text = value.render ++ "\n") ∨
        tag ≠ .println ∧ text = "") := by
  have gives := apply_eq_ok_iff.mp applied
  cases gives with
  | add range | sub range | mul range => exact ⟨range, .inr ⟨by decide, rfl⟩⟩
  | eq left right => exact ⟨rfl, .inr ⟨by decide, rfl⟩⟩
  | println value => exact ⟨rfl, .inl ⟨rfl, value, rfl, rfl⟩⟩

end Results

/-! ### The faults -/

/-- The faults of arithmetic: the number, the types, the range. -/
def isArithmeticFault : Fault → Bool
  | .arity _ _ _ | .operandTypes _ _ | .overflow _ _ | .resultTooLong => true
  | _ => false

theorem integerOperands_error {fault : Fault}
    (failed : tag.integerOperands (Value.ofList items) = .error fault) :
    isArithmeticFault fault ∧ fault ≠ .resultTooLong := by
  rcases bind_eq_error_iff.mp failed with failed | ⟨values, -, failed⟩
  · rw [checkArguments_ofList] at failed
    split at failed <;> cases failed
    exact ⟨rfl, nofun⟩
  · split at failed <;> cases failed
    exact ⟨rfl, nofun⟩

theorem checkRange_error {number : Int} {fault : Fault}
    (failed : tag.checkRange number = .error fault) : isArithmeticFault fault := by
  unfold checkRange at failed
  split at failed
  · cases failed
  · split at failed <;> cases failed <;> rfl

theorem arithmetic_error {compute : Int → Int → Int} {fault : Fault}
    (failed : tag.arithmetic compute (Value.ofList items) = .error fault) :
    isArithmeticFault fault := by
  rcases bind_eq_error_iff.mp failed with operands | ⟨operands, -, range⟩
  · exact (integerOperands_error operands).1
  · exact checkRange_error range

theorem apply_error {fault : Fault} (failed : tag.apply (Value.ofList items) = .error fault) :
    isArithmeticFault fault ∧ (tag = .println → items.length ≠ 1) := by
  cases tag with
  | add | sub | mul =>
      rcases bind_eq_error_iff.mp failed with failed | ⟨value, -, failed⟩
      · exact ⟨arithmetic_error failed, fun other => nomatch other⟩
      · cases failed
  | eq =>
      rcases bind_eq_error_iff.mp failed with failed | ⟨value, -, failed⟩
      · exact ⟨(integerOperands_error failed).1, fun other => nomatch other⟩
      · cases failed
  | println =>
      rw [apply_println] at failed
      split at failed
      · cases failed
      · rename_i several
        cases failed
        refine ⟨rfl, fun _ one => ?_⟩
        obtain ⟨value, rfl⟩ := List.length_eq_one_iff.mp one
        exact several value rfl

/-- A number no greater than a product of two in range has few enough digits to be written. -/
theorem isWritable_of_natAbs_le {number : Int} (small : number.natAbs ≤ minInt.natAbs * minInt.natAbs) :
    Text.isWritable number := by
  have many : ∀ digits, 38 ≤ digits → 10 ^ 38 ≤ Nat.pow 10 digits := fun digits enough =>
    Nat.pow_le_pow_right (by decide) enough
  have few : number.natAbs < 10 ^ 38 := small.trans_lt (by decide)
  rw [Text.isWritable, decide_eq_true_eq]
  exact few.trans_le (many Text.maxDigits (by decide))

theorem arithmetic_ne_resultTooLong {compute : Int → Int → Int}
    (small : ∀ left right : Int, left.natAbs ≤ minInt.natAbs → right.natAbs ≤ minInt.natAbs →
      (compute left right).natAbs ≤ minInt.natAbs * minInt.natAbs)
    (inRange : ∀ number, Value.int number ∈ items → inIntRange number) :
    tag.arithmetic compute (Value.ofList items) ≠ .error .resultTooLong := by
  intro failed
  rcases bind_eq_error_iff.mp failed with refused | ⟨⟨left, right⟩, operands, refused⟩
  · exact (integerOperands_error refused).2 rfl
  obtain ⟨-, rfl⟩ := integerOperands_eq_ok_iff.mp operands
  have bounds : ∀ number, Value.int number ∈ [Value.int left, Value.int right] →
      number.natAbs ≤ minInt.natAbs := by
    intro number member
    obtain ⟨low, high⟩ := inIntRange_iff.mp (inRange number member)
    unfold minInt at low ⊢
    unfold maxInt at high
    omega
  have short := isWritable_of_natAbs_le
    (small left right (bounds left (by simp)) (bounds right (by simp)))
  have range : tag.checkRange (compute left right) = .error .resultTooLong := refused
  unfold checkRange at range
  rw [if_pos short] at range
  split at range <;> cases range

/-- **Integers in range never give a result of too many digits.** -/
theorem apply_ne_resultTooLong
    (inRange : ∀ number, Value.int number ∈ items → inIntRange number) :
    tag.apply (Value.ofList items) ≠ .error .resultTooLong := by
  have silent : ∀ {check : Except Fault Value} {fault : Fault},
      (do return (← check, "") : Except Fault (Value × String)) = .error fault →
        check = .error fault := by
    intro check fault failed
    rcases bind_eq_error_iff.mp failed with failed | ⟨value, -, failed⟩
    · exact failed
    · cases failed
  have twice : minInt.natAbs + minInt.natAbs ≤ minInt.natAbs * minInt.natAbs := by decide
  intro failed
  cases tag with
  | add =>
      refine arithmetic_ne_resultTooLong (fun left right one other => ?_) inRange (silent failed)
      omega
  | sub =>
      refine arithmetic_ne_resultTooLong (fun left right one other => ?_) inRange (silent failed)
      omega
  | mul =>
      refine arithmetic_ne_resultTooLong (fun left right one other => ?_) inRange (silent failed)
      calc (left * right).natAbs = left.natAbs * right.natAbs := Int.natAbs_mul left right
        _ ≤ minInt.natAbs * minInt.natAbs := Nat.mul_le_mul one other
  | eq =>
      rcases bind_eq_error_iff.mp failed with refused | ⟨operands, -, refused⟩
      · exact (integerOperands_error refused).2 rfl
      · cases refused
  | println =>
      rw [apply_println] at failed
      split at failed <;> cases failed

end Builtin

end SmallLisp
