/-
**A program that computes factorials.**

`factorial` calls itself through the top level: every call creates a scope on top of the path that its
closure captured, and finds the function again behind the empty scope that was captured with it. The
multiplications are made on the way back, so all calls are made before one of them can be out of range.

* `ends_call`: what a call of the closure comes to and which scopes it adds, by induction on the
  argument;
* `factorial_computed`: the program, from its text, in any session.
-/

import Mathlib.Data.Nat.Factorial.Basic
import SmallLisp.Proofs.Eval.Arithmetic
import SmallLisp.Proofs.Eval.Depth
import SmallLisp.Proofs.Eval.Frame
import SmallLisp.Proofs.Session.Definitions
import SmallLisp.Proofs.Session.Pieces

namespace SmallLisp

open scoped Nat

/-! ### Calls of closures and branches -/

section Forms

variable {depth : Nat} {path : ScopePath} {world middle : World}

theorem eval_symbol {name : String} {value : Value} (deep : 0 < depth)
    (ordinary : ∀ tag : Builtin, name ≠ tag.name)
    (resolves : Resolves world.store name path.innermostFirst value) (known : value ≠ .void) :
    eval depth (.sym name) path world = .ok value world := by
  obtain ⟨depth, rfl⟩ := Nat.exists_eq_succ_of_ne_zero deep.ne'
  exact evalSymbol_of_resolves ordinary resolves known

theorem eval_branch {condition whenTrue whenFalse : Value} {flag : Bool}
    (chosen : eval depth condition path world = .ok (.bool flag) middle) :
    eval (depth + 1) (Value.ofList [.sym "if", condition, whenTrue, whenFalse]) path world
      = eval depth (if flag then whenTrue else whenFalse) path middle := by
  rw [eval_succ, evalStep_eq]
  show evalShape (eval depth) _ path (.branch condition whenTrue whenFalse) world = _
  rw [evalShape, bind_of_ok chosen]
  cases flag <;> rfl

/-- A function of one parameter is called by a name that is bound to it. -/
theorem eval_application {name : String} {argument value : Value} {procedure : Closure} (deep : 0 < depth)
    (ordinary : ∀ tag : Builtin, name ≠ tag.name) (general : SpecialForm.ofName? name = none)
    (resolves : Resolves world.store name path.innermostFirst procedure.toValue)
    (given : eval depth argument path world = .ok value middle) (known : value ≠ .void) :
    eval (depth + 1) (Value.ofList [.sym name, argument]) path world
      = (Callable.closure procedure).call (eval depth) (Value.ofList [value]) middle := by
  have function := eval_symbol deep ordinary resolves (show procedure.toValue ≠ .void by nofun)
  have each : evalArguments (eval depth) path [argument] [] world = .ok [value] middle :=
    evalArguments_of_ok given known [] []
  have shaped : (Value.ofList [.sym name, argument]).shape = .call (.sym name) (Value.ofList [argument]) := by
    simp [Value.shape, Value.ofList, SpecialForm.ofOperator?, general]
  rw [eval_succ, evalStep_eq, shaped]
  exact evalCall_of_ok _ (.closure procedure) function each

end Forms

namespace Factorial

/-! ### The program -/

/-- The text of the program. -/
def text : String :=
  "\n(define factorial (lambda (n)\n    (if (= n 0)\n        1\n        (* n (factorial (- n 1))))))\n"

/-- The call of the function with an argument. -/
def call (argument : Value) : Value := Value.ofList [.sym "factorial", argument]

/-- The body of the function. -/
def body : Value :=
  Value.ofList [.sym "if", Value.ofList [.sym "=", .sym "n", .int 0], .int 1,
    Value.ofList [.sym "*", .sym "n", call (Value.ofList [.sym "-", .sym "n", .int 1])]]

/-- The definition of the function. -/
def definition : Definition := ⟨"factorial", ["n"], body⟩

/-- The closure that the definition makes, with the scope that it captures. -/
def closure (id : Int) : Closure := ⟨["n"], body, ScopePath.top.push id⟩

theorem ne_builtin_name (tag : Builtin) : "factorial" ≠ tag.name := by
  cases tag <;> decide

theorem readSource_text {depth : Nat} (deep : 7 ≤ depth) :
    readSource depth text = ⟨[definition.form], none⟩ := by
  have read : readSource 7 text = ⟨[definition.form], none⟩ := by decide +kernel
  rw [(readSource_deeper deep text).1 (by rw [read]; nofun), read]

/-! ### Numbers in range -/

theorem inIntRange_natCast {number : Nat} : inIntRange number ↔ (number : Int) ≤ maxInt := by
  rw [inIntRange_iff]
  exact and_iff_right ((show minInt ≤ 0 by decide).trans (Int.natCast_nonneg number))

/-- The factorials in range are those of the numbers up to twenty. -/
theorem factorial_le_maxInt_iff {number : Nat} : (number ! : Int) ≤ maxInt ↔ number ≤ 20 := by
  have twenty : ((20 ! : Nat) : Int) ≤ maxInt := by decide
  have next : maxInt < ((21 ! : Nat) : Int) := by decide
  constructor
  · intro small
    by_contra large
    have more : 21 ! ≤ number ! := Nat.factorial_le (by omega)
    omega
  · intro few
    have less : number ! ≤ 20 ! := Nat.factorial_le few
    omega

/-! ### What the calls find -/

/-- The function is bound at the top level, and the scope that its closure captured is empty. -/
structure Known (store : ScopeStore) (id : Int) : Prop where
  bound : ∃ scope, store.scope? 0 = some scope ∧ scope.get? "factorial" = some (closure id).toValue
  captured : store.scope? id = some .empty

theorem Known.mono {store later : ScopeStore} {id : Int} (known : Known store id)
    (kept : Extends store later) : Known later id where
  bound := known.bound.imp fun scope found => ⟨kept 0 scope found.1, found.2⟩
  captured := kept id .empty known.captured

theorem known_enter (store : ScopeStore) : Known (Definition.enter store definition) store.size := by
  have inner : (store.size : Int) ≠ 0 := (Int.natCast_pos.mpr store.size_pos).ne'
  have contained : store.contains 0 :=
    ScopeStore.contains_iff.mpr ⟨le_rfl, Int.natCast_pos.mpr store.size_pos⟩
  obtain ⟨top, found⟩ := ScopeStore.exists_scope? contained
  refine ⟨⟨top.define "factorial" (closure store.size).toValue, ?_, ?_⟩, ?_⟩
  · rw [Definition.scope?_enter_top, found]
    rfl
  · rw [Scope.get?_define, if_pos rfl]
  · rw [Definition.scope?_enter _ _ inner, if_pos rfl]

/-- The scope of a call. -/
def frame (number : Nat) : Scope := .ofBindings [("n", .int number)]

/-- The store after a call with the given number: one more scope for it and for each number below. -/
def unwind : Nat → ScopeStore → ScopeStore
  | 0, store => (store.add (frame 0)).2
  | number + 1, store => unwind number (store.add (frame (number + 1))).2

theorem extends_unwind (number : Nat) (store : ScopeStore) : Extends store (unwind number store) := by
  induction number generalizing store with
  | zero => exact store.extends_add _
  | succ number ih => exact fun id scope found => ih _ id scope (store.extends_add _ id scope found)

theorem size_unwind (number : Nat) (store : ScopeStore) :
    (unwind number store).size = store.size + (number + 1) := by
  induction number generalizing store with
  | zero => exact store.size_add _
  | succ number ih => rw [unwind, ih, ScopeStore.size_add]; omega

/-- The path of a call: the path that the closure captured, and the scope of the call on top. -/
def callPath (id : Int) (world : World) : ScopePath := (ScopePath.top.push id).push world.store.size

/-- The world in which the body is evaluated. -/
def entered (number : Nat) (world : World) : World :=
  { world with store := (world.store.add (frame number)).2 }

section Calls

variable (id : Int) (number : Nat) (world : World)

theorem scope?_entered : (entered number world).store.scope? world.store.size = some (frame number) := by
  rw [entered, ScopeStore.scope?_add, ScopeStore.add_fst, if_pos rfl]

theorem resolves_number :
    Resolves (entered number world).store "n" (callPath id world).innermostFirst (.int number) :=
  .here (scope?_entered number world) rfl

variable {id} {world}

theorem resolves_function (known : Known world.store id) :
    Resolves (entered number world).store "factorial" (callPath id world).innermostFirst
      (closure id).toValue := by
  have kept := known.mono (world.store.extends_add (frame number))
  obtain ⟨top, found, bound⟩ := kept.bound
  exact .further (scope?_entered number world) rfl (.further kept.captured rfl (.here found bound))

end Calls

/-! ### The parts of the body -/

section Parts

variable {world : World} {path : ScopePath} {number : Nat}
  (bound : Resolves world.store "n" path.innermostFirst (.int number))
include bound

theorem eval_number {depth : Nat} (deep : 0 < depth) :
    eval depth (.sym "n") path world = .ok (.int number) world :=
  eval_symbol deep (fun tag => by cases tag <;> decide) bound nofun

theorem eval_condition (depth : Nat) :
    eval (depth + 2) (Value.ofList [.sym "=", .sym "n", .int 0]) path world
      = .ok (.bool (number = 0)) world := by
  have first := eval_number bound depth.succ_pos
  have second : eval (depth + 1) (.int 0) path world = .ok (.int 0) world := rfl
  have called := Arithmetic.eval_call_of_values .eq depth.succ_pos first nofun second nofun
  refine called.trans ((invoke_of_gives (.eq number 0) world).trans ?_)
  rw [String.append_empty]
  simp

end Parts

theorem eval_predecessor {world : World} {path : ScopePath} {number : Nat}
    (bound : Resolves world.store "n" path.innermostFirst (.int (number + 1 : Nat)))
    (small : ((number + 1 : Nat) : Int) ≤ maxInt) (depth : Nat) :
    eval (depth + 2) (Value.ofList [.sym "-", .sym "n", .int 1]) path world
      = .ok (.int number) world := by
  have first := eval_number bound depth.succ_pos
  have second : eval (depth + 1) (.int 1) path world = .ok (.int 1) world := rfl
  have called := Arithmetic.eval_call_of_numbers depth.succ_pos .sub (inIntRange_natCast.mpr small)
    (by decide) first second
  have difference : Arithmetic.Operation.sub.compute (number + 1 : Nat) 1 = number :=
    Int.add_sub_cancel number 1
  have range : inIntRange number := inIntRange_natCast.mpr (by omega)
  rwa [difference, if_pos range] at called

/-! ### Calls of the function -/

/-- What a call with the given number comes to, in the state that it leaves. -/
def result {σ : Type} (number : Nat) (later : σ) : EStateM.Result Fault σ Value :=
  if number ≤ 20 then .ok (.int (number ! : Nat)) later
  else .error (.overflow .mul (21 ! : Nat)) later

theorem after_eq_of_result {σ : Type} {computation : EStateM Fault σ Value} {state later : σ} {number : Nat}
    (ended : computation state = result number later) : after computation state = later := by
  unfold after
  by_cases few : number ≤ 20
  · rw [ended, result, if_pos few]
  · rw [ended, result, if_neg few]

/-- **The multiplication on the way back.** The first product out of range is reported, and what was
reported stays reported. -/
theorem eval_product {world later : World} {path : ScopePath} {depth number : Nat} {inner : Value}
    (bound : Resolves world.store "n" path.innermostFirst (.int (number + 1 : Nat)))
    (small : ((number + 1 : Nat) : Int) ≤ maxInt)
    (ended : eval (depth + 1) inner path world = result number later) :
    eval (depth + 2) (Value.ofList [.sym "*", .sym "n", inner]) path world = result (number + 1) later := by
  have first := eval_number bound depth.succ_pos
  by_cases few : number ≤ 20
  · have factor : inIntRange (number ! : Nat) :=
      inIntRange_natCast.mpr (factorial_le_maxInt_iff.mpr few)
    rw [result, if_pos few] at ended
    have called := Arithmetic.eval_call_of_numbers depth.succ_pos .mul (inIntRange_natCast.mpr small)
      factor first ended
    have product : Arithmetic.Operation.mul.compute (number + 1 : Nat) (number ! : Nat)
        = ((number + 1) ! : Nat) := (Int.natCast_mul _ _).symm
    rw [product] at called
    refine called.trans ?_
    by_cases last : number = 20
    · subst last
      rfl
    · have fewer : number + 1 ≤ 20 := by omega
      rw [result, if_pos fewer, if_pos (inIntRange_natCast.mpr (factorial_le_maxInt_iff.mpr fewer))]
  · rw [result, if_neg few] at ended
    rw [result, if_neg (by omega)]
    exact Arithmetic.eval_call_of_right .mul depth.succ_pos first nofun ended

/-- **A call of the function** comes to the factorial or to the first product out of range, and adds a
scope for each number down to zero. -/
theorem ends_call {id : Int} {number depth : Nat} {world : World} (known : Known world.store id)
    (small : (number : Int) ≤ maxInt) (deep : 3 * number + 3 ≤ depth) :
    (Callable.closure (closure id)).call (eval depth) (Value.ofList [.int number]) world
      = result number { world with store := unwind number world.store } := by
  -- on the number; one call takes up three levels: the body, its product and the call inside
  induction number generalizing depth world with
  | zero =>
      obtain ⟨depth, rfl⟩ := Nat.exists_eq_add_of_le' deep
      have bound := resolves_number id 0 world
      rw [call_closure rfl]
      exact eval_branch (eval_condition bound depth)
  | succ number ih =>
      obtain ⟨depth, rfl⟩ := Nat.exists_eq_add_of_le' (Nat.le_trans (by omega : 6 ≤ _) deep)
      have bound := resolves_number id (number + 1) world
      have function := resolves_function (number + 1) known
      have given := eval_predecessor bound small (depth + 1)
      rw [call_closure rfl]
      refine (eval_branch (eval_condition bound (depth + 3))).trans ?_
      refine eval_product bound small ?_
      refine (eval_application (Nat.succ_pos _) ne_builtin_name rfl function given nofun).trans ?_
      exact ih (known.mono (world.store.extends_add _)) (by omega) (by omega)

/-- The text defines the function. -/
theorem run_text {session : Session} (deep : 7 ≤ session.depth) :
    ∃ defined id, Session.run text session = .ok [.void] defined ∧ defined.depth = session.depth ∧
      Known defined.world.store id := by
  obtain ⟨journal, defined⟩ := Definition.evaluateAll_forms [definition] [] session (by omega)
  refine ⟨⟨session.depth, ⟨Definition.enter session.world.store definition, session.world.output⟩,
    .evaluated 1 :: journal⟩, session.world.store.size, ?_, rfl, known_enter session.world.store⟩
  rw [Session.run_apply, readSource_text deep]
  exact bind_of_ok defined

/-- A call at the top level. -/
theorem evaluate_call {id : Int} {number : Nat} {session : Session} (known : Known session.world.store id)
    (small : (number : Int) ≤ maxInt) (deep : 3 * number + 4 ≤ session.depth) :
    Session.evaluate (call (.int number)) session =
      result number
        ⟨session.depth, ⟨unwind number session.world.store, session.world.output⟩,
          .evaluating (call (.int number)) :: session.journal⟩ := by
  obtain ⟨depth, enough⟩ := Nat.exists_eq_add_of_le' (Nat.le_trans (by omega : 2 ≤ _) deep)
  obtain ⟨top, found, bound⟩ := known.bound
  have given : eval (depth + 1) (.int number) .top session.world = .ok (.int number) session.world := rfl
  have called := eval_application depth.succ_pos ne_builtin_name rfl (.here found bound) given nofun
  have ended : eval session.depth (call (.int number)) .top session.world =
      result number ⟨unwind number session.world.store, session.world.output⟩ := by
    rw [enough]
    exact called.trans (ends_call known small (by omega))
  by_cases few : number ≤ 20
  · rw [result, if_pos few] at ended ⊢
    exact Session.evaluate_of_ok ended
  · rw [result, if_neg few] at ended ⊢
    exact Session.evaluate_of_error ended

end Factorial

open Factorial in
/-- **The program computes factorials.** In every session, the text defines the function, and a call of it
with a number in range, on a stack that is deep enough, gives the factorial if that is in range and
reports an overflow otherwise. Either way the call keeps every scope that was there, adds one for each
number from the argument down to zero, and prints nothing. -/
theorem factorial_computed (session : Session) (number : Nat) (small : (number : Int) ≤ maxInt)
    (deep : 3 * number + 7 ≤ session.depth) :
    ∃ defined, Session.run text session = .ok [.void] defined ∧
      let later := after (Session.evaluate (call (.int number))) defined
      ((number ! : Int) ≤ maxInt →
        Session.evaluate (call (.int number)) defined = .ok (.int (number ! : Nat)) later) ∧
      (maxInt < (number ! : Int) → ∃ fault,
        Session.evaluate (call (.int number)) defined = .error fault later ∧
          fault.kind? = some .overflow) ∧
      Extends defined.world.store later.world.store ∧
      later.world.store.size = defined.world.store.size + (number + 1) ∧
      later.world.output = defined.world.output := by
  obtain ⟨defined, id, ran, depth, known⟩ := run_text (Nat.le_trans (by omega : 7 ≤ _) deep)
  have ended := evaluate_call known small (by omega)
  refine ⟨defined, ran, ?_⟩
  rw [after_eq_of_result ended, ended]
  refine ⟨?_, ?_, extends_unwind number defined.world.store, size_unwind number defined.world.store, rfl⟩
  · intro representable
    rw [result, if_pos (factorial_le_maxInt_iff.mp representable)]
  · intro outside
    have many : ¬number ≤ 20 := fun few => outside.not_ge (factorial_le_maxInt_iff.mpr few)
    rw [result, if_neg many]
    exact ⟨_, rfl, rfl⟩

open Factorial in
/-- The last factorial in range and the first one that is not, after the same definition. -/
theorem factorial_computed_boundary :
    ((20 : Nat) : Int) ≤ maxInt ∧ ((21 : Nat) : Int) ≤ maxInt ∧
      (∃ defined, Session.run text (.fresh 100) = .ok [.void] defined ∧
        Session.evaluate (call (.int 20)) defined
          = .ok (.int 2432902008176640000) (after (Session.evaluate (call (.int 20))) defined)) ∧
      ∃ defined fault, Session.run text (.fresh 100) = .ok [.void] defined ∧
        Session.evaluate (call (.int 21)) defined
          = .error fault (after (Session.evaluate (call (.int 21))) defined) ∧
        fault.kind? = some .overflow := by
  have twenty : ((20 : Nat) : Int) ≤ maxInt := by decide
  have more : ((21 : Nat) : Int) ≤ maxInt := by decide
  obtain ⟨defined, ran, given, -⟩ := factorial_computed (.fresh 100) 20 twenty (by decide)
  obtain ⟨defined', ran', -, refused, -⟩ := factorial_computed (.fresh 100) 21 more (by decide)
  obtain ⟨fault, failed, overflow⟩ := refused (by decide)
  exact ⟨twenty, more, ⟨defined, ran, given (by decide)⟩, defined', fault, ran', failed, overflow⟩

end SmallLisp
