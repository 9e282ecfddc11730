/-
**The record of an evaluation.**

The evaluator leaves nothing behind of what happened on the way. `Trace.eval` is the evaluator with
a record: every evaluation that is begun, with its path, every value that is returned, every scope
that is created, every definition and every application has its entry.

* `Trace.erases_eval`: without the record it is `eval`, with the same outcome in every world, so what
  the record says of a traced run is true of the plain one;
* `Trace.printed`: the values given to `println`, in order.
-/

import SmallLisp.Proofs.Eval.Outcome
import SmallLisp.Proofs.Eval.Shape

namespace SmallLisp

variable {σ α β : Type}

/-- What creates a scope: a `lambda` form, for the closure to capture, or a call of a closure. -/
inductive Origin where
  | lambda
  | call
  deriving DecidableEq, Repr

/-- Something that happens in an evaluation. -/
inductive Entry where
  /-- an evaluation was begun while there were `size` scopes -/
  | begun (expr : Value) (path : ScopePath) (size : Nat)
  | returned (value : Value)
  | created (origin : Origin) (id : Int)
  | bound (id : Int) (name : String) (value : Value)
  | applied (callable : Callable) (arguments : List Value)
  deriving DecidableEq, Repr

/-- A state with the record of how it came about, newest entry first. -/
structure Traced (σ : Type) where
  state : σ
  entries : List Entry

/-- A computation that keeps a record. -/
abbrev TraceM (σ : Type) := EStateM Fault (Traced σ)

namespace Trace

/-- A computation that has no entries. -/
def observe (computation : EStateM Fault σ α) : TraceM σ α := fun traced =>
  match computation traced.state with
  | .ok value state => .ok value ⟨state, traced.entries⟩
  | .error fault state => .error fault ⟨state, traced.entries⟩

/-- Adds an entry about the present state. -/
def note (entry : σ → Entry) : TraceM σ Unit :=
  modify fun traced => ⟨traced.state, entry traced.state :: traced.entries⟩

/-! ### The evaluator with a record -/

/-- Evaluates an expression under a path and keeps a record. -/
abbrev Evaluator := Value → ScopePath → TraceM World Value

def evalValue (evaluate : Evaluator) (expr : Value) (path : ScopePath) : TraceM World Value := do
  match ← evaluate expr path with
  | .void => throw (.noValue expr)
  | value => return value

def evalArguments (evaluate : Evaluator) (path : ScopePath) :
    List Value → List Value → TraceM World (List Value)
  | [], done => return done.reverse
  | argument :: arguments, done => do
    match ← evaluate argument path with
    | .void => throw (.noValue argument)
    | value => evalArguments evaluate path arguments (value :: done)

def call (evaluate : Evaluator) (arguments : List Value) (callable : Callable) :
    TraceM World Value := do
  note fun _ => .applied callable arguments
  match callable with
  | .builtin tag => observe (tag.invoke (Value.ofList arguments))
  | .closure procedure =>
    let inner ← observe (procedure.bindArguments (Value.ofList arguments))
    note fun _ => .created .call inner.current
    evaluate procedure.body inner

def evalCall (evaluate : Evaluator) (form operator operands : Value) (path : ScopePath) :
    TraceM World Value := do
  let value ← evalValue evaluate operator path
  let callable ← observe (EvalM.ofExcept (Callable.ofValue value form))
  let items ← observe (EvalM.ofExcept operands.elements)
  let arguments ← evalArguments evaluate path items []
  call evaluate arguments callable

def evalShape (evaluate : Evaluator) (expr : Value) (path : ScopePath) :
    Shape → TraceM World Value
  | .constant value => return value
  | .malformed fault => throw fault
  | .symbol name => observe (evalSymbol name path)
  | .define name operand => do
    match ← evaluate operand path with
    | .void => throw (.defineNoValue name operand)
    | value =>
      observe (EvalM.define path.current name value)
      note fun _ => .bound path.current name value
      return .void
  | .lambda params body => do
    let id ← observe (EvalM.addScope .empty)
    note fun _ => .created .lambda id
    return .lambda params body (path.push id)
  | .branch condition whenTrue whenFalse => do
    match ← evaluate condition path with
    | .bool true => evaluate whenTrue path
    | .bool false => evaluate whenFalse path
    | value => throw (.ifCondition value)
  | .call operator operands => evalCall evaluate expr operator operands path

/-- Evaluates an expression under a path, with evaluations nested at most `depth` deep. -/
def eval : Nat → Evaluator
  | 0, expr, path => do
    note fun world => .begun expr path world.store.size
    throw .depthExhausted
  | depth + 1, expr, path => do
    note fun world => .begun expr path world.store.size
    let value ← evalShape (eval depth) expr path expr.shape
    note fun _ => .returned value
    return value

/-! ### Without the record -/

/-- Two computations have the same outcome in every state, whatever the record before. -/
def Erases (traced : TraceM σ α) (plain : EStateM Fault σ α) : Prop :=
  ∀ start, plain start.state =
    match traced start with
    | .ok value later => .ok value later.state
    | .error fault later => .error fault later.state

namespace Erases

variable {traced : TraceM σ α} {plain : EStateM Fault σ α}

theorem pure (value : α) : Erases (Pure.pure value : TraceM σ α) (Pure.pure value) := fun _ => rfl

theorem throw (fault : Fault) :
    Erases (MonadExcept.throw fault : TraceM σ α) (MonadExcept.throw fault) := fun _ => rfl

theorem observe (computation : EStateM Fault σ α) : Erases (Trace.observe computation) computation := by
  intro start
  unfold Trace.observe
  cases computation start.state <;> rfl

theorem bind {next : α → TraceM σ β} {plainNext : α → EStateM Fault σ β}
    (first : Erases traced plain) (rest : ∀ value, Erases (next value) (plainNext value)) :
    Erases (traced >>= next) (plain >>= plainNext) := by
  intro start
  show EStateM.bind plain plainNext start.state = match EStateM.bind traced next start with
    | .ok value later => .ok value later.state
    | .error fault later => .error fault later.state
  have same := first start
  unfold EStateM.bind
  cases ended : traced start with
  | ok value later =>
      rw [ended] at same
      rw [same]
      exact rest value later
  | error fault later =>
      rw [ended] at same
      rw [same]

/-- An entry makes no difference. -/
theorem note {next : Unit → TraceM σ α} {entry : σ → Entry} (rest : Erases (next ()) plain) :
    Erases (Trace.note entry >>= next) plain :=
  fun start => rest ⟨start.state, entry start.state :: start.entries⟩

theorem ensures (same : Erases traced plain) {start : Traced σ} {onValue : α → σ → Prop}
    {onFault : Fault → σ → Prop} :
    Ensures plain start.state onValue onFault ↔
      Ensures traced start (fun value later => onValue value later.state)
        (fun fault later => onFault fault later.state) := by
  unfold Ensures
  rw [same start]
  cases traced start <;> rfl

theorem state_after (same : Erases traced plain) (start : Traced σ) :
    (after traced start).state = after plain start.state := by
  unfold after
  rw [same start]
  cases traced start <;> rfl

end Erases

section Evaluation

variable {evaluate : Evaluator} {plain : SmallLisp.Evaluator}
  (same : ∀ expr path, Erases (evaluate expr path) (plain expr path))
include same

theorem erases_evalValue (expr : Value) (path : ScopePath) :
    Erases (evalValue evaluate expr path) (SmallLisp.evalValue plain expr path) := by
  refine (same expr path).bind fun value => ?_
  cases value with
  | void => exact .throw _
  | _ => exact .pure _

theorem erases_evalArguments (path : ScopePath) (items done : List Value) :
    Erases (evalArguments evaluate path items done)
      (SmallLisp.evalArguments plain path items done) := by
  induction items generalizing done with
  | nil => exact .pure _
  | cons item rest ih =>
      refine (same item path).bind fun value => ?_
      cases value with
      | void => exact .throw _
      | _ => exact ih _

theorem erases_call (arguments : List Value) (callable : Callable) :
    Erases (call evaluate arguments callable)
      (callable.call plain (Value.ofList arguments)) := by
  refine .note ?_
  cases callable with
  | builtin tag => exact .observe _
  | closure procedure => exact (Erases.observe _).bind fun inner => .note (same _ inner)

theorem erases_evalShape (expr : Value) (path : ScopePath) (shape : Shape) :
    Erases (evalShape evaluate expr path shape) (SmallLisp.evalShape plain expr path shape) := by
  cases shape with
  | constant value => exact .pure _
  | malformed fault => exact .throw _
  | symbol name => exact .observe _
  | lambda params body => exact (Erases.observe _).bind fun id => .note (.pure _)
  | define name operand =>
      refine (same operand path).bind fun value => ?_
      cases value with
      | void => exact .throw _
      | _ => exact (Erases.observe _).bind fun _ => .note (.pure _)
  | branch condition whenTrue whenFalse =>
      refine (same condition path).bind fun value => ?_
      cases value with
      | bool selected =>
          cases selected with
          | true => exact same whenTrue path
          | false => exact same whenFalse path
      | _ => exact .throw _
  | call operator operands =>
      show Erases _ (SmallLisp.evalCall plain expr operator operands path)
      rw [evalCall_eq]
      exact (erases_evalValue same operator path).bind fun value =>
        (Erases.observe _).bind fun callable => (Erases.observe _).bind fun items =>
          (erases_evalArguments same path items []).bind fun arguments =>
            erases_call same arguments callable

end Evaluation

/-- **The record changes nothing**: without it, the traced evaluator is the evaluator. -/
theorem erases_eval (depth : Nat) (expr : Value) (path : ScopePath) :
    Erases (eval depth expr path) (SmallLisp.eval depth expr path) := by
  induction depth generalizing expr path with
  | zero => exact .note (.throw _)
  | succ depth ih =>
      refine .note ?_
      rw [eval_succ, evalStep_eq, ← bind_pure (SmallLisp.evalShape _ _ _ _)]
      exact (erases_evalShape ih expr path expr.shape).bind fun value => .note (.pure value)

/-! ### What was printed -/

/-- The value that an entry gives to `println`; with another number of arguments nothing is
printed. -/
def printed? : Entry → Option Value
  | .applied (.builtin .println) [value] => some value
  | _ => none

/-- The values given to `println`, in order. -/
def printed (entries : List Entry) : List Value := entries.reverse.filterMap printed?

/-- What is printed for some values: each stands on a line of its own. -/
def textOf : List Value → String
  | [] => ""
  | value :: rest => value.render ++ "\n" ++ textOf rest

theorem textOf_append (first second : List Value) :
    textOf (first ++ second) = textOf first ++ textOf second := by
  induction first with
  | nil => exact String.empty_append.symm
  | cons value rest ih => simp only [List.cons_append, textOf, ih, String.append_assoc]

theorem printed_cons (entry : Entry) (entries : List Entry) :
    printed (entry :: entries) = printed entries ++ (printed? entry).toList := by
  rw [printed, List.reverse_cons, List.filterMap_append]
  cases found : printed? entry <;> simp [printed, found]

end Trace

end SmallLisp
