/-
**The frame of an evaluation.**

Evaluating an expression under a path changes nothing that existed before, except in the innermost
scope of the path, and there only the bindings of names that a `define` form in an evaluated
position of the expression is about (`Defines`). This holds however the evaluation ends.

* `keeps_eval`: the frame law, by induction on the depth, one case for each form of expression;
* `extends_call`: applying a closure changes no scope that existed before, because the body runs
  with the new scope as its innermost one;
* `evaluation_frame`: both, and the frame of a top-level form.
-/

import SmallLisp.Proofs.Eval.Outcome
import SmallLisp.Proofs.Eval.Shape

namespace SmallLisp

/-! ### Definitions in evaluated positions -/

/-- A `define` of a name stands in an evaluated position of an expression: positions are reached
through operators, arguments, the operands of `if` and the value of a `define`, but never through a
`quote` or a `lambda`. -/
inductive Defines : Value → String → Prop
  | target (name : String) (expr : Value) :
      Defines (Value.ofList [.sym "define", .sym name, expr]) name
  | value {expr : Value} {name : String} (target : String) (inner : Defines expr name) :
      Defines (Value.ofList [.sym "define", .sym target, expr]) name
  | operand {condition whenTrue whenFalse operand : Value} {name : String}
      (member : operand ∈ [condition, whenTrue, whenFalse]) (inner : Defines operand name) :
      Defines (Value.ofList [.sym "if", condition, whenTrue, whenFalse]) name
  | operator {operator operands : Value} {name : String}
      (ordinary : SpecialForm.ofOperator? operator = none) (inner : Defines operator name) :
      Defines (.pair operator operands) name
  | argument {operator argument : Value} {items : List Value} {name : String}
      (ordinary : SpecialForm.ofOperator? operator = none) (member : argument ∈ items)
      (inner : Defines argument name) : Defines (.pair operator (Value.ofList items)) name

/-! ### Frames of stores -/

/-- The names that a scope binds, in order. -/
def Scope.names (scope : Scope) : List String := scope.bindings.map Prod.fst

/-- Every scope of a store is in a later store as it was. -/
def Extends (before later : ScopeStore) : Prop :=
  ∀ id scope, before.scope? id = some scope → later.scope? id = some scope

/-- A store changes into a later one at most in the scope `current`, and there at most in the
bindings of the given names; no name loses its binding or its place. -/
structure ChangesOnly (current : Int) (names : String → Prop) (before later : ScopeStore) :
    Prop where
  elsewhere : ∀ id scope, id ≠ current → before.scope? id = some scope →
    later.scope? id = some scope
  here : ∀ scope, before.scope? current = some scope → ∃ changed,
    later.scope? current = some changed ∧ scope.names <+: changed.names ∧
      ∀ name, ¬ names name → changed.get? name = scope.get? name

namespace ScopeStore

/-- The ids of the scopes in a store are the numbers below its size. -/
theorem bounds_of_scope? {store : ScopeStore} {id : Int} {scope : Scope}
    (found : store.scope? id = some scope) : 0 ≤ id ∧ id < store.size := by
  have known : store.contains id := by rw [contains_eq_isSome, found]; rfl
  exact contains_iff.mp known

theorem extends_add (store : ScopeStore) (scope : Scope) : Extends store (store.add scope).2 := by
  intro id old found
  have below : id ≠ (store.add scope).1 := Int.ne_of_lt (bounds_of_scope? found).2
  rw [scope?_add, if_neg below]
  exact found

end ScopeStore

theorem Scope.names_prefix_define (scope : Scope) (name : String) (value : Value) :
    scope.names <+: (scope.define name value).names := by
  obtain ⟨bindings⟩ := scope
  show bindings.map Prod.fst <+: (defineIn name value bindings).map Prod.fst
  induction bindings with
  | nil => exact List.nil_prefix
  | cons binding rest ih =>
      obtain ⟨bound, old⟩ := binding
      by_cases same : bound = name
      · subst same
        simp [defineIn]
      · simpa [defineIn, same] using ih

namespace ChangesOnly

variable {current : Int} {names : String → Prop} {first second third : ScopeStore}

theorem of_extends (kept : Extends first second) : ChangesOnly current names first second where
  elsewhere id scope _ found := kept id scope found
  here scope found := ⟨scope, kept current scope found, List.prefix_rfl, fun _ _ => rfl⟩

theorem refl (store : ScopeStore) : ChangesOnly current names store store :=
  of_extends fun _ _ found => found

theorem trans (one : ChangesOnly current names first second)
    (two : ChangesOnly current names second third) : ChangesOnly current names first third where
  elsewhere id scope other found :=
    two.elsewhere id scope other (one.elsewhere id scope other found)
  here scope found := by
    obtain ⟨middle, foundMiddle, namesMiddle, sameMiddle⟩ := one.here scope found
    obtain ⟨last, foundLast, namesLast, sameLast⟩ := two.here middle foundMiddle
    refine ⟨last, foundLast, namesMiddle.trans namesLast, fun name other => ?_⟩
    rw [sameLast name other, sameMiddle name other]

/-- More names may change. -/
theorem mono {more : String → Prop} (kept : ChangesOnly current names first second)
    (subset : ∀ name, names name → more name) : ChangesOnly current more first second where
  elsewhere := kept.elsewhere
  here scope found := by
    obtain ⟨changed, foundChanged, prefixed, same⟩ := kept.here scope found
    exact ⟨changed, foundChanged, prefixed, fun name other => same name (mt (subset name) other)⟩

/-- A binding in the innermost scope changes that name there. -/
theorem bindAt {name : String} (allowed : names name) (known : first.contains current)
    (value : Value) : ChangesOnly current names first (first.bindAt current.toNat name value) := by
  have index : (current.toNat : Int) = current := by
    have bounds : 0 ≤ current ∧ current < first.scopes.size := by
      simpa [ScopeStore.contains] using known
    omega
  constructor
  · intro id scope other found
    rw [ScopeStore.scope?_bindAt, index, if_neg other]
    exact found
  · intro scope found
    refine ⟨scope.define name value, ?_, scope.names_prefix_define name value, fun bound other => ?_⟩
    · rw [ScopeStore.scope?_bindAt, index, if_pos rfl, found]
      rfl
    · rw [Scope.get?_define, if_neg]
      rintro rfl
      exact other allowed

end ChangesOnly

/-! ### Computations that keep a frame -/

/-- However the computation ends, it changes at most the given names of the scope `current`. -/
def Keeps {α : Type} (current : Int) (names : String → Prop) (computation : EvalM α) : Prop :=
  ∀ world : World, Moves (fun before later => ChangesOnly current names before.store later.store)
    (fun _ => True) computation world (fun _ _ => True)

namespace Keeps

variable {α β : Type} {current : Int} {names : String → Prop}

theorem pure (value : α) : Keeps current names (Pure.pure value) :=
  fun world => ⟨.refl world.store, trivial⟩

theorem throw (fault : Fault) : Keeps current names (MonadExcept.throw fault : EvalM α) :=
  fun world => ⟨.refl world.store, trivial⟩

theorem bind {first : EvalM α} {next : α → EvalM β} (kept : Keeps current names first)
    (rest : ∀ value, Keeps current names (next value)) : Keeps current names (first >>= next) :=
  fun world => (kept world).bind .trans fun value middle _ _ => rest value middle

theorem mono {more : String → Prop} {computation : EvalM α} (kept : Keeps current names computation)
    (subset : ∀ name, names name → more name) : Keeps current more computation :=
  fun world => .of_step_after ((kept world).step_after.mono subset)

/-- What follows a check may rely on it. -/
theorem check {check : Except Fault α} {next : α → EvalM β}
    (rest : ∀ value, check = .ok value → Keeps current names (next value)) :
    Keeps current names (EvalM.ofExcept check >>= next) := by
  cases check with
  | error fault => exact throw fault
  | ok value => exact rest value rfl

theorem addScope (scope : Scope) : Keeps current names (EvalM.addScope scope) :=
  fun world => ensures_addScope.mpr ⟨.of_extends (world.store.extends_add scope), trivial⟩

theorem define {name : String} (allowed : names name) (value : Value) :
    Keeps current names (EvalM.define current name value) := by
  intro world
  refine ensures_define.mpr ?_
  by_cases known : world.store.contains current
  · rw [if_pos known]
    exact ⟨.bindAt allowed known value, trivial⟩
  · rw [if_neg known]
    exact ⟨.refl world.store, trivial⟩

theorem resolve (path : ScopePath) (name : String) : Keeps current names (EvalM.resolve path name) :=
  fun world => ensures_resolve.mpr
    ⟨fun _ _ => ⟨.refl world.store, trivial⟩, fun _ _ => ⟨.refl world.store, trivial⟩⟩

end Keeps

/-! ### The frame law -/

theorem keeps_evalSymbol (current : Int) (names : String → Prop) (name : String)
    (path : ScopePath) : Keeps current names (evalSymbol name path) := by
  unfold evalSymbol
  split
  · exact .pure _
  · refine (Keeps.resolve path name).bind fun found => ?_
    split
    · exact .throw _
    · exact .throw _
    · exact .pure _

section Law

variable {evaluate : Evaluator}
  (law : ∀ expr path, Keeps path.current (Defines expr) (evaluate expr path))
include law

/-- Every scope from before a call is older than the innermost scope of the body. -/
theorem extends_call (callable : Callable) (arguments : Value) (world : World) :
    Extends world.store (after (callable.call evaluate arguments) world).store := by
  rw [← ensures_state fun later : World => Extends world.store later.store]
  cases callable with
  | builtin tag => exact ensures_invoke.mpr ⟨fun _ _ _ _ _ found => found, fun _ _ _ _ found => found⟩
  | closure procedure =>
      rw [Callable.call, Closure.bindArguments, ensures_bind, ensures_bind, ensures_ofExcept]
      refine ⟨fun scope _ => ?_, fun _ _ _ _ found => found⟩
      rw [ensures_bind, ensures_addScope, ensures_pure]
      have kept := law procedure.body (procedure.path.push world.store.size)
        { world with store := (world.store.add scope).2 }
      refine Ensures.mono kept (fun _ later ⟨changed, _⟩ => ?_) (fun _ later ⟨changed, _⟩ => ?_)
      -- both endings: the only scope that may have changed is the new one
      all_goals
        intro id old found
        have older : id ≠ (world.store.size : Int) := by
          have bounds := ScopeStore.bounds_of_scope? found
          omega
        exact changed.elsewhere id old older (world.store.extends_add scope id old found)

theorem keeps_evalArguments (path : ScopePath) (names : String → Prop) (items done : List Value)
    (covered : ∀ item ∈ items, ∀ name, Defines item name → names name) :
    Keeps path.current names (evalArguments evaluate path items done) := by
  induction items generalizing done with
  | nil => exact .pure _
  | cons item rest ih =>
      have first : Keeps path.current names (evaluate item path) :=
        (law item path).mono (covered item List.mem_cons_self)
      refine first.bind fun value => ?_
      have others := fun value => ih (value :: done) fun other member =>
        covered other (List.mem_cons_of_mem item member)
      cases value with
      | void => exact .throw _
      | _ => exact others _

theorem keeps_evalCall (form operator operands : Value) (path : ScopePath)
    (ordinary : SpecialForm.ofOperator? operator = none) :
    Keeps path.current (Defines (.pair operator operands))
      (evalCall evaluate form operator operands path) := by
  have first : Keeps path.current (Defines (.pair operator operands))
      (evaluate operator path) := (law operator path).mono fun _ => .operator ordinary
  rw [evalCall_eq, evalValue]
  refine (first.bind fun value => ?_).bind fun value => .check fun callable _ => ?_
  · cases value with
    | void => exact .throw _
    | _ => exact .pure _
  · refine .check fun items listed => ?_
    obtain rfl := Value.elements_eq_ok_iff.mp listed
    refine Keeps.bind (keeps_evalArguments law path _ items [] ?_) fun arguments world => ?_
    · exact fun item member name inner => .argument ordinary member inner
    · exact .of_step_after (.of_extends (extends_call law callable _ world))

/-- **One step keeps the frame** if the evaluator of the parts does. -/
theorem keeps_evalShape {expr : Value} {shape : Shape} (fits : Fits expr shape)
    (path : ScopePath) :
    Keeps path.current (Defines expr) (evalShape evaluate expr path shape) := by
  cases fits with
  | self | quote => exact .pure _
  | misshapen | mark => exact .throw _
  | symbol name => exact keeps_evalSymbol _ _ name path
  | lambda params body => exact (Keeps.addScope _).bind fun _ => .pure _
  | call operands ordinary => exact keeps_evalCall law _ _ operands path ordinary
  | define name operand =>
      have value := (law operand path).mono fun _ => Defines.value name
      refine value.bind fun result => ?_
      cases result with
      | void => exact .throw _
      | _ => exact (Keeps.define (.target name operand) _).bind fun _ => .pure _
  | branch condition whenTrue whenFalse =>
      have operand := fun part (member : part ∈ [condition, whenTrue, whenFalse]) =>
        (law part path).mono fun _ => Defines.operand member
      refine (operand condition (by simp)).bind fun result => ?_
      cases result with
      | bool selected =>
          cases selected with
          | true => exact operand whenTrue (by simp)
          | false => exact operand whenFalse (by simp)
      | _ => exact .throw _

end Law

/-- **The frame law**, by induction on the depth. -/
theorem keeps_eval (depth : Nat) (expr : Value) (path : ScopePath) :
    Keeps path.current (Defines expr) (eval depth expr path) := by
  induction depth generalizing expr path with
  | zero => exact .throw _
  | succ depth ih =>
      rw [eval_succ, evalStep_eq]
      exact keeps_evalShape ih expr.fits_shape path

/-- **An evaluation changes only what its own `define` forms are about.** Whatever the outcome, no
scope is removed, every scope but the innermost one of the path keeps its bindings in their order,
and the innermost one keeps all its names and every binding that no `define` in an evaluated
position is about. A call changes no scope that existed before, and a top-level form none but the
top level. -/
theorem evaluation_frame (depth : Nat) (world : World) :
    (∀ expr path, ChangesOnly path.current (Defines expr) world.store
      (after (eval depth expr path) world).store) ∧
    (∀ (callable : Callable) (arguments : Value),
      Extends world.store (after (callable.call (eval depth) arguments) world).store) ∧
    (∀ (session : Session) (form : Value), ∀ id ≠ ScopePath.topId, ∀ scope,
      session.world.store.scope? id = some scope →
      (after (Session.evaluate form) session).world.store.scope? id = some scope) := by
  refine ⟨fun expr path => ?_, fun callable arguments => ?_, ?_⟩
  · exact (keeps_eval depth expr path world).step_after
  · exact extends_call (keeps_eval depth) callable arguments world
  · intro session form id inner scope found
    have kept := keeps_eval session.depth form .top session.world
    rw [← ensures_state fun later : Session => later.world.store.scope? id = some scope,
      ensures_evaluate]
    exact Ensures.mono kept (fun _ _ ⟨changed, _⟩ => changed.elsewhere id scope inner found)
      (fun _ _ ⟨changed, _⟩ => changed.elsewhere id scope inner found)

/-- `(f 3)` binds `z` in the scope of the call before it fails, and `z` stays as it was in the scope
that the closure captured. -/
theorem evaluation_frame_failed_call :
    let body := Value.ofList [.sym "+", Value.ofList [.sym "define", .sym "z", .sym "x"], .int 1]
    let session : Session :=
      ⟨9, ⟨⟨#[⟨[("f", .lambda ["x"] body ⟨[1]⟩)]⟩, ⟨[("z", .nil)]⟩], by decide⟩, ""⟩, []⟩
    let later := after (Session.evaluate (Value.ofList [.sym "f", .int 3])) session
    later.world.store.scope? 1 = some ⟨[("z", .nil)]⟩ ∧
      later.world.store.scope? 2 = some ⟨[("x", .int 3), ("z", .int 3)]⟩ := by
  intro body session later
  exact ⟨(evaluation_frame 0 .initial).2.2 session _ 1 (by decide) _ rfl, by decide +kernel⟩

end SmallLisp
