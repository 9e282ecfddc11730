/-
**Renaming scopes in values.**

The only numbers of scopes that a value holds are those on the paths that its closures captured.
`Value.rename` replaces them and `Value.Within` says which they are.

* `render_rename`, `message_rename`: no text shows a scope's number;
* `elements_rename`, `take2_rename` and so on: the walks over a list do not look at one either, so
  that a check of a renamed value ends as the check of the value does, renamed (`renameCheck`).
-/

import Mathlib.Data.Set.Function
import SmallLisp.Proofs.Value.List

namespace SmallLisp

variable {map : Int → Int} {ids : Set Int}

/-! ### Paths -/

namespace ScopePath

/-- The path with its scopes renamed; the top level keeps its number. -/
def rename (map : Int → Int) (path : ScopePath) : ScopePath := ⟨path.inner.map map⟩

/-- All scopes of a path are among the given ones. -/
def Within (ids : Set Int) (path : ScopePath) : Prop := ∀ id ∈ path.ids, id ∈ ids

@[simp] theorem rename_push (path : ScopePath) (id : Int) :
    (path.push id).rename map = (path.rename map).push (map id) := rfl

theorem innermostFirst_rename (top : map topId = topId) (path : ScopePath) :
    (path.rename map).innermostFirst = path.innermostFirst.map map := by
  rw [innermostFirst, innermostFirst, List.map_append, List.map_singleton, top]
  rfl

theorem current_rename (top : map topId = topId) (path : ScopePath) :
    (path.rename map).current = map path.current := by
  obtain ⟨inner⟩ := path
  cases inner with
  | nil => exact top.symm
  | cons id outer => rfl

theorem within_push {path : ScopePath} {id : Int} :
    (path.push id).Within ids ↔ path.Within ids ∧ id ∈ ids := by
  unfold Within
  rw [ids_push, List.forall_mem_append, List.forall_mem_singleton]

theorem Within.mono {larger : Set Int} {path : ScopePath} (within : path.Within ids)
    (subset : ids ⊆ larger) : path.Within larger := fun id member => subset (within id member)

theorem Within.innermostFirst {path : ScopePath} (within : path.Within ids) :
    ∀ id ∈ path.innermostFirst, id ∈ ids := by
  intro id member
  rw [innermostFirst_eq_reverse, List.mem_reverse] at member
  exact within id member

theorem Within.current {path : ScopePath} (within : path.Within ids) : path.current ∈ ids :=
  within _ path.current_mem_ids

theorem rename_congr {other : Int → Int} {path : ScopePath} (within : path.Within ids)
    (same : Set.EqOn map other ids) : path.rename map = path.rename other := by
  refine congrArg ScopePath.mk (List.map_congr_left fun id member => same (within id ?_))
  simp [ScopePath.ids, member]

end ScopePath

/-! ### Values -/

namespace Value

/-- The value with the scopes renamed that its closures captured. -/
def rename (map : Int → Int) : Value → Value
  | .pair first rest => .pair (rename map first) (rename map rest)
  | .lambda params body path => .lambda params (rename map body) (path.rename map)
  | value => value

/-- All scopes that the closures in a value captured are among the given ones. -/
def Within (ids : Set Int) : Value → Prop
  | .pair first rest => first.Within ids ∧ rest.Within ids
  | .lambda _ body path => body.Within ids ∧ path.Within ids
  | _ => True

theorem Within.mono {larger : Set Int} {value : Value} (within : value.Within ids)
    (subset : ids ⊆ larger) : value.Within larger := by
  induction value with
  | pair first rest ihFirst ihRest => exact ⟨ihFirst within.1, ihRest within.2⟩
  | lambda params body path ih => exact ⟨ih within.1, within.2.mono subset⟩
  | _ => trivial

/-- Renamings that agree on the scopes of a value give the same value. -/
theorem rename_congr {other : Int → Int} {value : Value} (within : value.Within ids)
    (same : Set.EqOn map other ids) : value.rename map = value.rename other := by
  induction value with
  | pair first rest ihFirst ihRest =>
      rw [rename, rename, ihFirst within.1, ihRest within.2]
  | lambda params body path ih =>
      rw [rename, rename, ih within.1, ScopePath.rename_congr within.2 same]
  | _ => rfl

theorem rename_eq_void {value : Value} : value.rename map = .void ↔ value = .void := by
  cases value <;> simp [rename]

theorem write_rename (value : Value) (inList : Bool) (done : String) :
    (value.rename map).write inList done = value.write inList done := by
  induction value generalizing inList done with
  | pair first rest ihFirst ihRest => rw [rename, write, write, ihFirst, ihRest]
  | _ => rfl

/-- **The text of a value** does not show which scopes its closures captured. -/
theorem render_rename (value : Value) : (value.rename map).render = value.render :=
  write_rename value false ""

theorem rename_chain (items : List Value) (tail : Value) :
    (chain items tail).rename map = chain (items.map (rename map)) (tail.rename map) := by
  induction items with
  | nil => rfl
  | cons item items ih => rw [chain_cons, rename, ih, List.map_cons, chain_cons]

theorem rename_ofList (items : List Value) :
    (ofList items).rename map = ofList (items.map (rename map)) := rename_chain items .nil

theorem within_ofList {items : List Value} :
    (ofList items).Within ids ↔ ∀ item ∈ items, item.Within ids := by
  induction items with
  | nil => simp [ofList, Within]
  | cons item items ih =>
      rw [List.forall_mem_cons, ← ih]
      rfl

end Value

/-! ### Faults -/

namespace Fault

/-- The fault with the scopes renamed in the values that caused it. -/
def rename (map : Int → Int) : Fault → Fault
  | .notAList value => .notAList (value.rename map)
  | .argumentsNotAList arguments => .argumentsNotAList (arguments.rename map)
  | .operandTypes tag arguments => .operandTypes tag (arguments.rename map)
  | .notCallable value form => .notCallable (value.rename map) (form.rename map)
  | .noValue expr => .noValue (expr.rename map)
  | .defineOperands operands => .defineOperands (operands.rename map)
  | .defineTarget target => .defineTarget (target.rename map)
  | .defineNoValue name expr => .defineNoValue name (expr.rename map)
  | .ifOperands operands => .ifOperands (operands.rename map)
  | .ifCondition value => .ifCondition (value.rename map)
  | .lambdaOperands operands => .lambdaOperands (operands.rename map)
  | .lambdaParameter param => .lambdaParameter (param.rename map)
  | fault => fault

theorem kind?_rename (fault : Fault) : (fault.rename map).kind? = fault.kind? := by
  cases fault <;> rfl

theorem conditionText_rename (value : Value) :
    conditionText (value.rename map) = conditionText value := by
  cases value with
  | pair | lambda => exact Value.render_rename _
  | _ => rfl

/-- **The wording of a fault** does not show which scopes closures captured. -/
theorem message_rename (fault : Fault) : (fault.rename map).message = fault.message := by
  have worded : ∀ (before : String) {text other : String}, text = other →
      before ++ text = before ++ other := fun before _ _ same => congrArg (before ++ ·) same
  cases fault with
  | notAList value | argumentsNotAList value | operandTypes tag value | notCallable callee value
  | noValue value | defineTarget value | defineNoValue name value | ifOperands value
  | lambdaOperands value | lambdaParameter value => exact worded _ (Value.render_rename value)
  | defineOperands operands =>
      refine worded _ ?_
      rw [operandText, operandText, Value.render_rename]
  | ifCondition value => exact worded _ (conditionText_rename value)
  | _ => rfl

end Fault

/-! ### Checks -/

/-- The outcome of a check, renamed: its result by `onResult`, its fault as faults are. -/
def renameCheck {α : Type} (map : Int → Int) (onResult : α → α) : Except Fault α → Except Fault α
  | .ok result => .ok (onResult result)
  | .error fault => .error (fault.rename map)

/-- One renamed check after the other. -/
theorem renameCheck_bind {α β : Type} {onFirst : α → α} {onSecond : β → β}
    {first : Except Fault α} {next other : α → Except Fault β}
    (natural : ∀ result, other (onFirst result) = renameCheck map onSecond (next result)) :
    renameCheck map onFirst first >>= other = renameCheck map onSecond (first >>= next) := by
  cases first with
  | ok result => exact natural result
  | error fault => rfl

namespace Value

theorem collectFrom_rename (taken : List Value) (value : Value) :
    collectFrom (taken.map (rename map)) (value.rename map)
      = (collectFrom taken value).map (List.map (rename map)) := by
  induction value generalizing taken with
  | nil => simp [rename, collectFrom]
  | pair first rest _ ih => exact ih (first :: taken)
  | _ => rfl

theorem countFrom_rename (count : Nat) (value : Value) :
    countFrom count (value.rename map) = countFrom count value := by
  induction value generalizing count with
  | pair first rest _ ih => exact ih (count + 1)
  | _ => rfl

theorem elements_rename (value : Value) :
    (value.rename map).elements = renameCheck map (List.map (rename map)) value.elements := by
  have collected : collectFrom [] (value.rename map)
      = (collectFrom [] value).map (List.map (rename map)) := collectFrom_rename [] value
  rw [elements, elements, collected]
  cases collectFrom [] value <;> rfl

theorem length_rename (value : Value) :
    (value.rename map).length = renameCheck map id value.length := by
  rw [length, length, countFrom_rename]
  cases countFrom 0 value <;> rfl

theorem splitHead_rename (value : Value) :
    (value.rename map).splitHead
      = renameCheck map (Prod.map (rename map) (rename map)) value.splitHead := by
  cases value <;> rfl

theorem head_rename (value : Value) :
    (value.rename map).head = renameCheck map (rename map) value.head := by
  rw [head, splitHead_rename]
  exact renameCheck_bind fun _ => rfl

theorem take2_rename (value : Value) :
    (value.rename map).take2
      = renameCheck map (Prod.map (rename map) (rename map)) value.take2 := by
  rw [take2, splitHead_rename]
  refine renameCheck_bind fun parts => ?_
  obtain ⟨first, rest⟩ := parts
  dsimp only [Prod.map]
  rw [splitHead_rename]
  exact renameCheck_bind fun _ => rfl

theorem take3_rename (value : Value) :
    (value.rename map).take3
      = renameCheck map (Prod.map (rename map) (Prod.map (rename map) (rename map)))
          value.take3 := by
  rw [take3, splitHead_rename]
  refine renameCheck_bind fun parts => ?_
  obtain ⟨first, rest⟩ := parts
  dsimp only [Prod.map]
  rw [splitHead_rename]
  refine renameCheck_bind fun more => ?_
  obtain ⟨second, rest⟩ := more
  dsimp only [Prod.map]
  rw [splitHead_rename]
  exact renameCheck_bind fun _ => rfl

end Value

end SmallLisp
