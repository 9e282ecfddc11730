/-
**When two values are the same.**

`Value.same` holds exactly between a value and itself (`same_iff_eq`), so it is an equivalence.

A running program does not hold trees but pairs at places, and what stands at one place is one pair. It
compares by kinds: booleans only with booleans, then by what the left side says about the right, or else by
what the right says about the left, and two chains of pairs in a loop that stops early where both have come
to the same place. `Held.equal` is that comparison, with or without this shortcut.

* `Held.walk_pair`: the loop over two chains can be entered anywhere;
* `Held.equal_iff`: in one memory, two held values are equal exactly if they are the same tree, so the
  shortcut never changes the answer.
-/

import Mathlib.Logic.Basic
import SmallLisp.Value.Basic

namespace SmallLisp

/-! ### Values as trees -/

namespace Value

/-- **Only a value itself is the same.** -/
theorem same_iff_eq {value other : Value} : value.same other ↔ value = other := by
  induction value generalizing other with
  | pair first rest firstSame restSame =>
      cases other with
      | pair => simp [same, firstSame, restSame]
      | _ => simp [same]
  | lambda params body path bodySame =>
      cases other with
      | lambda =>
          rw [same, Bool.and_eq_true, Bool.and_eq_true, beq_iff_eq, beq_iff_eq, bodySame, lambda.injEq]
          exact and_assoc.trans (and_congr_right fun _ => and_comm)
      | _ => simp [same]
  | _ => cases other <;> simp [same]

end Value

/-! ### Values in memory -/

/-- A value as a program holds it: each pair has a place. -/
inductive Held where
  | nil
  | bool (value : Bool)
  | int (value : Int)
  | str (text : String)
  | sym (name : String)
  | pair (place : Nat) (first rest : Held)
  | builtin (tag : Builtin)
  | lambda (params : List String) (body : Held) (path : ScopePath)

namespace Held

/-- The tree that is held. -/
def tree : Held → Value
  | .nil => .nil
  | .bool value => .bool value
  | .int value => .int value
  | .str text => .str text
  | .sym name => .sym name
  | .pair _ first rest => .pair first.tree rest.tree
  | .builtin tag => .builtin tag
  | .lambda params body path => .lambda params body.tree path

/-- All pairs of a value stand in a memory at their places. -/
def In (memory : Nat → Held × Held) : Held → Prop
  | .pair place first rest => memory place = (first, rest) ∧ first.In memory ∧ rest.In memory
  | .lambda _ body _ => body.In memory
  | _ => True

/-- Whether a value is a boolean. -/
def isBool : Held → Bool
  | .bool _ => true
  | _ => false

/-- Whether a value is the empty list. -/
def isNil : Held → Bool
  | .nil => true
  | _ => false

/-- What counts as a number: an integer, and a boolean as zero or one. -/
def number? : Held → Option Int
  | .int value => some value
  | .bool value => some value.toInt
  | _ => none

mutual

/-- Whether two values are equal. A boolean counts as a number, so it is set apart first. -/
def equal (shortcut : Bool) (left right : Held) : Bool :=
  if left.isBool || right.isBool then left.isBool && right.isBool && agree shortcut left right
  else agree shortcut left right
termination_by (sizeOf left + sizeOf right, 3)

/-- The left value's answer, or else the right one's; if neither has one, they differ. -/
def agree (shortcut : Bool) (left right : Held) : Bool :=
  match verdict shortcut left right with
  | some answer => answer
  | none => (verdict shortcut right left).getD false
termination_by (sizeOf left + sizeOf right, 2)
decreasing_by
  · exact .right _ (by decide)
  · rw [Nat.add_comm]
    exact .right _ (by decide)

/-- The verdict of a value about another; `none` leaves the answer to the other. -/
def verdict (shortcut : Bool) (self other : Held) : Option Bool :=
  match self with
  | .nil => some other.isNil
  | .bool value => other.number?.map (value.toInt == ·)
  | .int value => other.number?.map (value == ·)
  | .str text =>
    match other with
    | .str otherText => some (text == otherText)
    | _ => none
  | .sym name =>
    match other with
    | .sym otherName => some (name == otherName)
    | _ => some false
  | .pair place first rest => some (walk shortcut place first rest other)
  | .builtin tag =>
    match other with
    | .builtin otherTag => if tag = otherTag then some true else none
    | _ => none
  | .lambda params body path =>
    match other with
    | .lambda otherParams otherBody otherPath =>
      some (params == otherParams && path == otherPath && equal shortcut body otherBody)
    | _ => some false
termination_by (sizeOf self + sizeOf other, 1)

/-- Compares a chain, from the pair of `first` and `rest` on, with another value. The chains are walked
together; where both have come to the same place, the shortcut ends the walk. -/
def walk (shortcut : Bool) (place : Nat) (first rest other : Held) : Bool :=
  match other with
  | .pair otherPlace otherFirst otherRest =>
    if shortcut && place == otherPlace then true
    else if equal shortcut first otherFirst then
      match rest with
      | .pair nextPlace nextFirst nextRest =>
        walk shortcut nextPlace nextFirst nextRest otherRest
      | last => equal shortcut last otherRest
    else false
  | _ => false
termination_by (sizeOf first + sizeOf rest + sizeOf other, 0)

end

/-! ### One memory -/

section Comparison

variable {shortcut : Bool}

theorem equal_pair (place : Nat) (first rest other : Held) :
    equal shortcut (.pair place first rest) other = walk shortcut place first rest other := by
  cases other with
  | bool value => simp [equal, isBool, walk]
  | _ => simp [equal, isBool, agree, verdict]

/-- **The walk can be entered anywhere**: what is left of two chains is compared as values are. -/
theorem walk_pair (place otherPlace : Nat) (first rest otherFirst otherRest : Held) :
    walk shortcut place first rest (.pair otherPlace otherFirst otherRest) =
      (shortcut && place == otherPlace ||
        equal shortcut first otherFirst && equal shortcut rest otherRest) := by
  have step : walk shortcut place first rest (.pair otherPlace otherFirst otherRest) =
      if shortcut && place == otherPlace then true
      else if equal shortcut first otherFirst then equal shortcut rest otherRest else false := by
    cases rest with
    | pair => rw [walk, equal_pair]
    | _ => simp [walk]
  rw [step]
  cases shortcut && place == otherPlace <;> cases equal shortcut first otherFirst <;> rfl

theorem equal_lambda (params otherParams : List String) (body otherBody : Held)
    (path otherPath : ScopePath) :
    equal shortcut (.lambda params body path) (.lambda otherParams otherBody otherPath) =
      (params == otherParams && path == otherPath && equal shortcut body otherBody) := by
  rw [equal, agree, verdict]
  rfl

variable {memory : Nat → Held × Held} {left right : Held}

/-- **Held values are equal exactly if they are the same tree.** The shortcut is sound because the pair at
a place is one pair. -/
theorem equal_iff (leftIn : left.In memory) (rightIn : right.In memory) :
    equal shortcut left right ↔ left.tree = right.tree := by
  induction left generalizing right with
  | pair place first rest firstEqual restEqual =>
      rw [equal_pair]
      cases right with
      | pair otherPlace otherFirst otherRest =>
          obtain ⟨here, firstIn, restIn⟩ := leftIn
          obtain ⟨there, otherFirstIn, otherRestIn⟩ := rightIn
          have alike : place = otherPlace → first = otherFirst ∧ rest = otherRest := by
            rintro rfl
            exact Prod.mk.inj (here.symm.trans there)
          rw [walk_pair, Bool.or_eq_true, Bool.and_eq_true, Bool.and_eq_true, beq_iff_eq,
            firstEqual firstIn otherFirstIn, restEqual restIn otherRestIn, tree, tree,
            Value.pair.injEq]
          refine or_iff_right_of_imp fun ⟨_, same⟩ => ?_
          obtain ⟨rfl, rfl⟩ := alike same
          exact ⟨rfl, rfl⟩
      | _ => simp [walk, tree]
  | lambda params body path bodyEqual =>
      cases right with
      | lambda otherParams otherBody otherPath =>
          have inner : equal shortcut body otherBody ↔ body.tree = otherBody.tree :=
            bodyEqual leftIn rightIn
          rw [equal_lambda, Bool.and_eq_true, Bool.and_eq_true, beq_iff_eq, beq_iff_eq, inner, tree,
            tree, Value.lambda.injEq]
          exact and_assoc.trans (and_congr_right fun _ => and_comm)
      | _ => simp [equal, agree, verdict, isBool, tree]
  | bool value =>
      cases right with
      | bool other => cases value <;> cases other <;> simp [equal, agree, verdict, isBool, number?, tree]
      | _ => simp [equal, isBool, tree]
  | builtin tag =>
      cases right with
      | builtin other =>
          by_cases same : tag = other <;> simp [equal, agree, verdict, isBool, tree, same, eq_comm]
      | _ => simp [equal, agree, verdict, isBool, isNil, number?, walk, tree]
  | _ => cases right <;> simp [equal, agree, verdict, isBool, isNil, number?, walk, tree]

end Comparison

end Held

/-- **Two values are the same exactly if they are one tree**: the same kinds and atoms everywhere, and the
same parameters, path ids and bodies for closures. So sameness is an equivalence that does not depend on
the order of the two. The comparison of values in memory comes to the same answer, whatever is shared
between them, and with or without the shortcut for chains that have come to the same place. -/
theorem same_is_identity :
    (∀ value other : Value, value.same other ↔ value = other) ∧
    (Equivalence fun value other : Value => (value.same other : Prop)) ∧
    (∀ value other : Value, value.same other = other.same value) ∧
    ∀ (memory : Nat → Held × Held) (left right : Held), left.In memory → right.In memory →
      ∀ shortcut, left.equal shortcut right = left.tree.same right.tree := by
  refine ⟨fun _ _ => Value.same_iff_eq, ⟨?_, ?_, ?_⟩, ?_, ?_⟩
  · exact fun value => Value.same_iff_eq.mpr rfl
  · exact fun same => Value.same_iff_eq.mpr (Value.same_iff_eq.mp same).symm
  · exact fun one two => Value.same_iff_eq.mpr ((Value.same_iff_eq.mp one).trans (Value.same_iff_eq.mp two))
  · intro value other
    rw [Bool.eq_iff_iff, Value.same_iff_eq, Value.same_iff_eq]
    exact eq_comm
  · intro memory left right leftIn rightIn shortcut
    rw [Bool.eq_iff_iff, Held.equal_iff leftIn rightIn, Value.same_iff_eq]

/-- A memory in which the chain `(1)` at place 7 is the rest of the pairs at places 3, 4 and 5. -/
def sharedTail : Nat → Held × Held
  | 3 | 5 => (.bool true, .pair 7 (.int 1) .nil)
  | 4 => (.int 1, .pair 7 (.int 1) .nil)
  | _ => (.int 1, .nil)

/-- `(true 1)` is equal to `(true 1)` at another place, and not to `(1 1)`; all share the chain `(1)`. -/
theorem same_is_identity_sharedTail :
    let one := Held.pair 3 (.bool true) (.pair 7 (.int 1) .nil)
    let number := Held.pair 4 (.int 1) (.pair 7 (.int 1) .nil)
    let again := Held.pair 5 (.bool true) (.pair 7 (.int 1) .nil)
    one.equal true number = false ∧ one.equal true again = true := by
  intro one number again
  have oneIn : one.In sharedTail := ⟨rfl, trivial, rfl, trivial, trivial⟩
  have numberIn : number.In sharedTail := ⟨rfl, trivial, rfl, trivial, trivial⟩
  have againIn : again.In sharedTail := ⟨rfl, trivial, rfl, trivial, trivial⟩
  have held := same_is_identity.2.2.2 sharedTail
  rw [held one number oneIn numberIn, held one again oneIn againIn]
  decide

end SmallLisp
