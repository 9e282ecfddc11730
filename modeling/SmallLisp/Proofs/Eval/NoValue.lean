/-
**Expressions without a value.**

A definition produces no value, and `void` is the mark for that. It is an outcome of an evaluation and never
a part of anything: if it occurs neither in the expression nor in the store, it is never bound and never
passed (`voidFreedom_lawful`).

So an evaluation that ends without a value has done so for one reason. `EndsInDefinition` follows its tail:
from an `if` to the selected branch, from a call to the body of the closure, and at last to a `define` that
bound its name.

* `EndsInDefinition.eval_eq`: an evaluation with such a tail produces no value;
* `endsInDefinition_of_eval`: there is no other way to produce none.
-/

import SmallLisp.Proofs.Eval.Rules
import SmallLisp.Proofs.Eval.Upkeep
import SmallLisp.Proofs.Scope.Bindings

namespace SmallLisp

/-! ### Values without a `void` in them -/

namespace Value

/-- Whether `void` occurs nowhere in a value, be it in a pair or in the body of a closure. -/
def isVoidFree : Value → Bool
  | .void => false
  | .pair first rest => first.isVoidFree && rest.isVoidFree
  | .lambda _ body _ => body.isVoidFree
  | _ => true

theorem isVoidFree_of_isReadable {value : Value} (readable : value.isReadable) : value.isVoidFree := by
  induction value with
  | pair first rest firstFree restFree =>
      obtain ⟨one, two⟩ := Bool.and_eq_true_iff.mp readable
      exact Bool.and_eq_true_iff.mpr ⟨firstFree one, restFree two⟩
  | lambda | void => cases readable
  | _ => rfl

end Value

/-- An application to arguments without a `void`, or any other entry. -/
def Entry.VoidFree : Entry → Prop
  | .applied _ arguments => ∀ argument ∈ arguments, argument.isVoidFree
  | _ => True

/-- No binding holds a `void`, and no recorded application was given one. -/
structure Traced.VoidFree (traced : Traced World) : Prop where
  store : traced.state.store.Each (·.isVoidFree)
  entries : ∀ entry ∈ traced.entries, entry.VoidFree

namespace Traced.VoidFree

variable {start : Traced World} (free : start.VoidFree)
include free

theorem withStore {store : ScopeStore} (kept : store.Each (·.isVoidFree)) (output : String) :
    VoidFree ⟨⟨store, output⟩, start.entries⟩ := ⟨kept, free.entries⟩

theorem note {entry : Entry} (new : entry.VoidFree) :
    VoidFree ⟨start.state, entry :: start.entries⟩ :=
  ⟨free.store, List.forall_mem_cons.mpr ⟨new, free.entries⟩⟩

end Traced.VoidFree

namespace Trace

/-- The absence of `void` as something to be kept, under whatever path and with whatever fault. -/
def voidFreedom : Upkeep where
  expr value := value.isVoidFree
  step _ later := later.VoidFree
  value _ value := value.isVoidFree
  path _ _ := True
  allowed _ := True

section Operations

variable {start : Traced World} (free : start.VoidFree)
include free

theorem voidFreedom_symbol (name : String) (path : ScopePath) :
    voidFreedom.Keeps (observe (evalSymbol name path)) start voidFreedom.value := by
  refine ensures_observe.mpr ?_
  unfold evalSymbol
  split
  · exact ⟨free, rfl⟩
  · rw [ensures_bind, ensures_resolve]
    refine ⟨fun found resolved => ?_, fun fault _ => ⟨free, trivial⟩⟩
    split
    · exact ⟨free, trivial⟩
    · exact ⟨free, trivial⟩
    · exact ⟨free, free.store.resolve resolved⟩

theorem voidFreedom_assign (path : ScopePath) (name : String) {value : Value} (bound : value.isVoidFree) :
    voidFreedom.Keeps (assign path name value) start voidFreedom.Outcome := by
  unfold Upkeep.Keeps Moves assign
  rw [ensures_bind, ensures_observe, ensures_define]
  split
  · have defined := free.withStore (free.store.bindAt bound path.current.toNat name) start.state.output
    exact ⟨defined.note trivial, .inl rfl⟩
  · exact ⟨free, trivial⟩

theorem voidFreedom_close (path : ScopePath) (params : List String) {body : Value}
    (inner : body.isVoidFree) :
    voidFreedom.Keeps (close path params body) start voidFreedom.Outcome := by
  have created := free.withStore (free.store.add Scope.each_empty) start.state.output
  exact ⟨created.note trivial, .inr inner⟩

variable {arguments : List Value} (each : ∀ argument ∈ arguments, argument.isVoidFree)
include each

theorem voidFreedom_applyBuiltin (tag : Builtin) :
    voidFreedom.Keeps (applyBuiltin tag arguments) start voidFreedom.Outcome := by
  have applied : Traced.VoidFree ⟨start.state, .applied (.builtin tag) arguments :: start.entries⟩ :=
    free.note each
  unfold Upkeep.Keeps Moves applyBuiltin
  rw [ensures_bind, ensures_note, ensures_observe, ensures_invoke]
  refine ⟨fun result text given => ?_, fun fault _ => ⟨applied, trivial⟩⟩
  have result := Value.isVoidFree_of_isReadable (Builtin.apply_ok given).1
  exact ⟨applied.withStore applied.store _, .inr result⟩

theorem voidFreedom_enter (procedure : Closure) :
    voidFreedom.Keeps (enter procedure arguments) start voidFreedom.path := by
  have applied : Traced.VoidFree
      ⟨start.state, .applied (.closure procedure) arguments :: start.entries⟩ := free.note each
  unfold Upkeep.Keeps Moves enter
  rw [ensures_bind, ensures_note, ensures_bind, ensures_observe, Closure.bindArguments,
    ensures_bind, ensures_ofExcept]
  refine ⟨fun scope found => ?_, fun fault _ => ⟨applied, trivial⟩⟩
  obtain ⟨-, rfl⟩ := Closure.argumentScope_eq_ok_iff.mp found
  have bound := applied.store.add (Scope.each_zip procedure.params each)
  exact ⟨(applied.withStore bound start.state.output).note trivial, trivial⟩

end Operations

/-- **Nothing that evaluation does brings a `void` anywhere.** -/
theorem voidFreedom_lawful : voidFreedom.Lawful where
  trans _ later := later
  settled later := later
  value_mono _ known := known
  path_mono _ _ := trivial
  parts := Bool.and_eq_true_iff.mp
  constant known := known
  body known := known
  mark _ _ := trivial
  ordinary _ := trivial
  begun free _ _ := free.note trivial
  returned free _ := free.note trivial
  symbol name free _ := voidFreedom_symbol free name _
  assign name free _ bound := voidFreedom_assign free _ name bound
  close free _ _ inner := voidFreedom_close free _ _ inner
  applyBuiltin tag free each := voidFreedom_applyBuiltin free each tag
  enter free _ each := voidFreedom_enter free each _

end Trace

/-! ### What evaluation gives -/

section Given

variable {depth : Nat} {path : ScopePath} {start later : World}
  (store : start.store.Each (·.isVoidFree))

/-- What is kept with a record is kept without it. -/
theorem voidFree_of_ok {α : Type} {traced : TraceM World α} {plain : EvalM α} {value : α}
    (good : α → Prop) (same : Trace.Erases traced plain)
    (keeps : Trace.voidFreedom.Keeps traced ⟨start, []⟩ fun _ => good)
    (ended : plain start = .ok value later) : later.store.Each (·.isVoidFree) ∧ good value := by
  have plainly : Ensures plain start
      (fun value later => later.store.Each (·.isVoidFree) ∧ good value) fun _ _ => True :=
    same.ensures.mpr (Ensures.mono keeps (fun _ _ ⟨free, known⟩ => ⟨free.store, known⟩)
      fun _ _ _ => trivial)
  exact plainly.of_ok ended

include store

theorem voidFree_start : Traced.VoidFree ⟨start, []⟩ :=
  ⟨store, fun _ member => absurd member List.not_mem_nil⟩

theorem voidFree_of_eval {expr value : Value} (free : expr.isVoidFree)
    (ended : eval depth expr path start = .ok value later) :
    later.store.Each (·.isVoidFree) ∧ (value = .void ∨ value.isVoidFree) :=
  voidFree_of_ok (fun value => value = .void ∨ value.isVoidFree) (Trace.erases_eval depth expr path)
    (Trace.voidFreedom_lawful.eval depth (voidFree_start store) free trivial) ended

theorem voidFree_of_evalArguments {items values : List Value} (free : ∀ item ∈ items, item.isVoidFree)
    (ended : evalArguments (eval depth) path items [] start = .ok values later) :
    later.store.Each (·.isVoidFree) ∧ ∀ value ∈ values, value.isVoidFree := by
  refine voidFree_of_ok (fun values => ∀ value ∈ values, value.isVoidFree)
    (Trace.erases_evalArguments (Trace.erases_eval depth) path items []) ?_ ended
  refine Trace.voidFreedom_lawful.evalArguments ?_ (voidFree_start store) trivial free
    fun _ member => absurd member List.not_mem_nil
  exact fun _ _ _ here ready known => Trace.voidFreedom_lawful.eval depth here ready known

end Given

/-! ### The tail of an evaluation -/

/-- An evaluation at a depth comes, in its tail, to a definition that binds its name, and leaves a world. -/
inductive EndsInDefinition : Nat → Value → ScopePath → World → World → Prop
  | define {depth : Nat} {path : ScopePath} {name : String} {expr value : Value} {start middle : World}
      {store : ScopeStore} (operand : eval depth expr path start = .ok value middle)
      (known : value ≠ .void) (defined : middle.store.define path.current name value = .ok store) :
      EndsInDefinition (depth + 1) (Value.ofList [.sym "define", .sym name, expr]) path start
        { middle with store }
  | branch {depth : Nat} {path : ScopePath} {condition whenTrue whenFalse : Value} {flag : Bool}
      {start middle later : World} (chosen : eval depth condition path start = .ok (.bool flag) middle)
      (selected : EndsInDefinition depth (if flag then whenTrue else whenFalse) path middle later) :
      EndsInDefinition (depth + 1) (Value.ofList [.sym "if", condition, whenTrue, whenFalse]) path start
        later
  | call {depth : Nat} {path captured : ScopePath} {operator body : Value} {params : List String}
      {operands arguments : List Value} {start middle before later : World}
      (ordinary : ∀ form : SpecialForm, operator ≠ .sym form.name)
      (function : eval depth operator path start = .ok (.lambda params body captured) middle)
      (each : evalArguments (eval depth) path operands [] middle = .ok arguments before)
      (arity : arguments.length = params.length)
      (applied : EndsInDefinition depth body (captured.push before.store.size)
        { before with store := (before.store.add (.ofBindings (params.zip arguments))).2 } later) :
      EndsInDefinition (depth + 1) (.pair operator (Value.ofList operands)) path start later

/-- **An evaluation whose tail ends in a definition produces no value.** -/
theorem EndsInDefinition.eval_eq {depth : Nat} {expr : Value} {path : ScopePath} {start later : World}
    (ends : EndsInDefinition depth expr path start later) :
    eval depth expr path start = .ok .void later := by
  induction ends with
  | define operand known defined =>
      rw [eval_succ, evalStep_eq]
      exact evalShape_define_of_ok operand known _ defined
  | @branch _ _ _ _ _ flag _ _ _ chosen _ ih =>
      rw [eval_succ, evalStep_eq]
      refine (bind_of_ok chosen).trans ?_
      cases flag <;> exact ih
  | call ordinary function each arity _ ih =>
      rw [eval_succ, evalStep_eq, Value.shape_call _ ordinary, evalShape,
        evalCall_of_ok _ (.closure ⟨_, _, _⟩) function each, call_closure arity]
      exact ih

/-! ### No other way to produce no value -/

section Endings

variable {evaluate : Evaluator} {path : ScopePath} {start later : World}

theorem evalValue_ends {expr value : Value}
    (ended : evalValue evaluate expr path start = .ok value later) :
    evaluate expr path start = .ok value later := by
  obtain ⟨given, middle, evaluated, rest⟩ := bind_ends_iff.mp ended
  cases given with
  | void => cases rest
  | _ =>
      cases rest
      exact evaluated

theorem evalSymbol_ne_void {name : String} : evalSymbol name path start ≠ .ok .void later := by
  have given : Ensures (evalSymbol name path) start (fun value _ => value ≠ .void) fun _ _ => True := by
    unfold evalSymbol
    split
    · exact nofun
    · rw [ensures_bind, ensures_resolve]
      refine ⟨fun found _ => ?_, fun _ _ => trivial⟩
      split
      · trivial
      · trivial
      · assumption
  exact fun ended => given.of_ok ended rfl

theorem invoke_ne_void {tag : Builtin} {arguments : List Value} :
    tag.invoke (Value.ofList arguments) start ≠ .ok .void later := by
  have given : Ensures (tag.invoke (Value.ofList arguments)) start
      (fun value _ => value.isReadable) fun _ _ => True :=
    ensures_invoke.mpr ⟨fun _ _ applied => (Builtin.apply_ok applied).1, fun _ _ => trivial⟩
  intro ended
  cases given.of_ok ended

/-- A definition that ends has evaluated its operand to a value and bound it. -/
theorem evalShape_define_ends {form expr result : Value} {name : String}
    (ended : evalShape evaluate form path (.define name expr) start = .ok result later) :
    ∃ value middle store, evaluate expr path start = .ok value middle ∧ value ≠ .void ∧
      middle.store.define path.current name value = .ok store ∧ later = { middle with store } := by
  obtain ⟨value, middle, operand, rest⟩ := bind_ends_iff.mp ended
  have known : value ≠ .void := by
    rintro rfl
    cases rest
  have binding : (do EvalM.define path.current name value; return Value.void : EvalM Value) middle
      = .ok result later := by
    cases value with
    | void => exact absurd rfl known
    | _ => exact rest
  obtain ⟨_, last, bound, finished⟩ := bind_ends_iff.mp binding
  rw [EvalM.define_apply] at bound
  cases defined : middle.store.define path.current name value with
  | ok store =>
      rw [defined] at bound
      cases bound
      cases finished
      exact ⟨value, middle, store, operand, known, defined, rfl⟩
  | error fault =>
      rw [defined] at bound
      cases bound

/-- A call that ends has evaluated its operator to a function and its operands to arguments. -/
theorem evalCall_ends {form operator operands result : Value}
    (ended : evalCall evaluate form operator operands path start = .ok result later) :
    ∃ callable middle items arguments before,
      evaluate operator path start = .ok (Callable.toValue callable) middle ∧
      operands = Value.ofList items ∧
      evalArguments evaluate path items [] middle = .ok arguments before ∧
      callable.call evaluate (Value.ofList arguments) before = .ok result later := by
  rw [evalCall_eq] at ended
  obtain ⟨value, middle, function, afterFunction⟩ := bind_ends_iff.mp ended
  obtain ⟨callable, second, called, afterCallable⟩ := bind_ends_iff.mp afterFunction
  obtain ⟨items, third, listed, afterItems⟩ := bind_ends_iff.mp afterCallable
  obtain ⟨arguments, before, each, applied⟩ := bind_ends_iff.mp afterItems
  obtain ⟨isCallable, rfl⟩ := ofExcept_ends_iff.mp called
  obtain ⟨isList, rfl⟩ := ofExcept_ends_iff.mp listed
  obtain rfl := Callable.ofValue_eq_ok_iff.mp isCallable
  obtain rfl := Value.elements_eq_ok_iff.mp isList
  exact ⟨callable, _, items, arguments, before, evalValue_ends function, rfl, each, applied⟩

/-- A call of a closure that ends has one argument for each parameter. -/
theorem arity_of_call {procedure : Closure} {arguments : List Value} {result : Value}
    (ended : (Callable.closure procedure).call evaluate (Value.ofList arguments) start
      = .ok result later) : arguments.length = procedure.params.length := by
  obtain ⟨inner, middle, bound, -⟩ := bind_ends_iff.mp ended
  obtain ⟨scope, _, counted, -⟩ := bind_ends_iff.mp bound
  obtain ⟨counted, -⟩ := ofExcept_ends_iff.mp counted
  exact (Closure.argumentScope_eq_ok_iff.mp counted).1

end Endings

/-- **Only a tail that ends in a definition produces no value**, by induction on the depth: what is evaluated
in the tail is again free of `void`, in a store that is. -/
theorem endsInDefinition_of_eval {depth : Nat} {expr : Value} {path : ScopePath} {start later : World}
    (free : expr.isVoidFree) (store : start.store.Each (·.isVoidFree))
    (ended : eval depth expr path start = .ok .void later) :
    EndsInDefinition depth expr path start later := by
  induction depth generalizing expr path start with
  | zero => cases ended
  | succ depth ih =>
      rw [eval_succ, evalStep_eq] at ended
      have fits := expr.fits_shape
      generalize expr.shape = shape at fits ended
      cases fits with
      | self itself =>
          cases ended
          cases free
      | quote datum others =>
          cases ended
          cases free
      | symbol name => exact absurd ended evalSymbol_ne_void
      | define name operand =>
          obtain ⟨value, middle, store, evaluated, known, defined, rfl⟩ := evalShape_define_ends ended
          exact .define evaluated known defined
      | lambda params body => cases ended
      | branch condition whenTrue whenFalse =>
          have parts := Trace.voidFreedom_lawful.items free
          obtain ⟨value, middle, chosen, rest⟩ := bind_ends_iff.mp ended
          have kept := (voidFree_of_eval store (parts condition (by simp)) chosen).1
          cases value with
          | bool flag =>
              refine .branch chosen ?_
              cases flag with
              | true => exact ih (parts whenTrue (by simp)) kept rest
              | false => exact ih (parts whenFalse (by simp)) kept rest
          | _ => cases rest
      | @call operator operands ordinary =>
          obtain ⟨function, others⟩ := Trace.voidFreedom_lawful.parts free
          obtain ⟨callable, middle, items, arguments, before, evaluated, rfl, each, applied⟩ :=
            evalCall_ends ended
          obtain ⟨kept, outcome⟩ := voidFree_of_eval store function evaluated
          obtain ⟨bound, passed⟩ :=
            voidFree_of_evalArguments kept (Trace.voidFreedom_lawful.items others) each
          cases callable with
          | builtin tag => exact absurd applied invoke_ne_void
          | closure procedure =>
              have arity := arity_of_call applied
              rw [call_closure arity] at applied
              have body : procedure.body.isVoidFree := outcome.resolve_left nofun
              exact .call (ofOperator?_eq_none_iff.mp ordinary) evaluated each arity
                (ih body (bound.add (Scope.each_zip _ passed)) applied)
      | misshapen | mark => cases ended

/-- **No value never leaks.** From an expression and a store in which `void` occurs nowhere, under every path
and at every depth: it occurs in no binding afterwards, however the evaluation ends; no function is applied
to an argument in which it occurs; and the evaluation produces no value if and only if its tail ends in a
definition that bound its name. -/
theorem void_never_leaks (depth : Nat) {expr : Value} (path : ScopePath) {start : World}
    (free : expr.isVoidFree) (store : start.store.Each (·.isVoidFree)) :
    (after (eval depth expr path) start).store.Each (·.isVoidFree) ∧
    (∀ callable arguments,
      .applied callable arguments ∈ (after (Trace.eval depth expr path) ⟨start, []⟩).entries →
        ∀ argument ∈ arguments, argument.isVoidFree) ∧
    ∀ later, eval depth expr path start = .ok .void later ↔
      EndsInDefinition depth expr path start later := by
  have kept : (after (Trace.eval depth expr path) ⟨start, []⟩).VoidFree :=
    (Trace.voidFreedom_lawful.eval depth (voidFree_start store) free trivial).step_after
  have plain := (Trace.erases_eval depth expr path).state_after ⟨start, []⟩
  refine ⟨?_, fun callable arguments => ?_, fun later => ?_⟩
  · rw [← plain]
    exact kept.store
  · exact kept.entries (.applied callable arguments)
  · exact ⟨endsInDefinition_of_eval free store, (·.eval_eq)⟩

/-- `(if true ((lambda (x) (define y x)) 7) nil)` ends in the definition of `y` in the scope of the call. -/
theorem void_never_leaks_inBody :
    let body := Value.ofList [.sym "define", .sym "y", .sym "x"]
    let procedure := Value.ofList [.sym "lambda", Value.ofList [.sym "x"], body]
    let expr := Value.ofList [.sym "if", .bool true, Value.ofList [procedure, .int 7], .nil]
    EndsInDefinition 5 expr .top .initial
      ⟨⟨#[⟨[]⟩, ⟨[]⟩, ⟨[("x", .int 7), ("y", .int 7)]⟩], by decide⟩, ""⟩ := by
  intro body procedure expr
  have free : expr.isVoidFree := rfl
  exact ((void_never_leaks 5 .top free ScopeStore.each_initial).2.2 _).mp rfl

end SmallLisp
