/-
**Lists as values.**

Every value is a chain of items with an end that is no pair (`exists_chain`), and a walk to the end
asks whether that is the empty list (`isList_chain_iff`, `elements_chain`, `length_chain`). So the
walks succeed on the proper lists and on nothing else:

* `elements_eq_ok_iff`: the elements of a value are `items` exactly if the value lists them;
* `length_eq_ok_iff`: the same for the number of elements.
-/

import SmallLisp.Value.List

namespace SmallLisp.Value

/-- Whether a value is a pair. -/
def isPair : Value → Bool
  | .pair _ _ => true
  | _ => false

/-- **Every value is a chain** with an end that is no pair. -/
theorem exists_chain (value : Value) :
    ∃ items tail, value = chain items tail ∧ tail.isPair = false := by
  induction value with
  | pair first rest _ ih =>
      obtain ⟨items, tail, rfl, notPair⟩ := ih
      exact ⟨first :: items, tail, rfl, notPair⟩
  | _ => exact ⟨[], _, rfl, rfl⟩

theorem collectFrom_end {tail : Value} (notPair : tail.isPair = false) (taken : List Value) :
    collectFrom taken tail = if tail = .nil then some taken.reverse else none := by
  cases tail with
  | pair => cases notPair
  | _ => rfl

theorem countFrom_end {tail : Value} (notPair : tail.isPair = false) (count : Nat) :
    countFrom count tail = if tail = .nil then some count else none := by
  cases tail with
  | pair => cases notPair
  | _ => rfl

theorem isList_chain_iff {tail : Value} (notPair : tail.isPair = false) (items : List Value) :
    (chain items tail).isList ↔ tail = .nil := by
  rw [isList_chain]
  cases tail with
  | pair => cases notPair
  | _ => simp [isList]

theorem elements_chain {tail : Value} (notPair : tail.isPair = false) (items : List Value) :
    (chain items tail).elements
      = if tail = .nil then .ok items else .error (.notAList (chain items tail)) := by
  rw [elements, collectFrom_chain, collectFrom_end notPair]
  by_cases proper : tail = .nil
  · simp [proper]
  · simp [proper]

theorem length_chain {tail : Value} (notPair : tail.isPair = false) (items : List Value) :
    (chain items tail).length
      = if tail = .nil then .ok items.length else .error (.notAList (chain items tail)) := by
  rw [length, countFrom_chain, countFrom_end notPair]
  by_cases proper : tail = .nil
  · simp [proper]
  · simp [proper]

/-- **A value has elements exactly if it lists them.** -/
theorem elements_eq_ok_iff {value : Value} {items : List Value} :
    value.elements = .ok items ↔ value = ofList items := by
  constructor
  · intro found
    obtain ⟨others, tail, rfl, notPair⟩ := exists_chain value
    rw [elements_chain notPair] at found
    split at found
    · rename_i proper
      cases found
      rw [proper]
      rfl
    · cases found
  · rintro rfl
    exact elements_ofList items

/-- **A value has a length exactly if it is a list of that length.** -/
theorem length_eq_ok_iff {value : Value} {count : Nat} :
    value.length = .ok count ↔ ∃ items, value = ofList items ∧ items.length = count := by
  constructor
  · intro found
    obtain ⟨items, tail, rfl, notPair⟩ := exists_chain value
    rw [length_chain notPair] at found
    split at found
    · rename_i proper
      cases found
      rw [proper]
      exact ⟨items, rfl, rfl⟩
    · cases found
  · rintro ⟨items, rfl, rfl⟩
    exact length_ofList items

theorem elements_eq_error {value : Value} {fault : Fault} (failed : value.elements = .error fault) :
    fault = .notAList value := by
  unfold elements at failed
  split at failed <;> cases failed
  rfl

theorem length_eq_error {value : Value} {fault : Fault} (failed : value.length = .error fault) :
    fault = .notAList value := by
  unfold length at failed
  split at failed <;> cases failed
  rfl

end SmallLisp.Value
