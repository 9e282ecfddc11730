/-
**The rules of evaluation.**

`Evaluates store path expr value later text` is the judgement that under `path` the expression `expr`
evaluates in `store` to `value`, leaves `later` and prints `text`; the value is `void` if the
expression produces none. Its rules are those of the language, one for each form: they know nothing
of depth, of faults or of the order of checks.

* `lawful_eval`: what evaluation ends with, at whatever depth, follows by the rules;
* `Evaluates.runs`: what follows by the rules is what evaluation ends with, at every depth from some
  depth on;
* hence an expression has at most one outcome by the rules (`Evaluates.unique`).
-/

import Mathlib.Order.Filter.AtTopBot.Basic
import SmallLisp.Proofs.Eval.Builtin
import SmallLisp.Proofs.Eval.Outcome
import SmallLisp.Proofs.Eval.Shape

namespace SmallLisp

/-- The first of the scopes with the given ids that binds the name binds it to the value. -/
inductive Resolves (store : ScopeStore) (name : String) : List Int → Value → Prop
  | here {id : Int} {ids : List Int} {scope : Scope} {value : Value}
      (found : store.scope? id = some scope) (bound : scope.get? name = some value) :
      Resolves store name (id :: ids) value
  | further {id : Int} {ids : List Int} {scope : Scope} {value : Value}
      (found : store.scope? id = some scope) (free : scope.get? name = none)
      (outer : Resolves store name ids value) :
      Resolves store name (id :: ids) value

mutual

/-- Under a path, in a store, an expression evaluates to a value, leaves a store and prints. -/
inductive Evaluates : ScopeStore → ScopePath → Value → Value → ScopeStore → String → Prop
  | self {store : ScopeStore} {path : ScopePath} {value : Value} (itself : value.standsForItself) :
      Evaluates store path value value store ""
  | builtin (store : ScopeStore) (path : ScopePath) (tag : Builtin) :
      Evaluates store path (.sym tag.name) (.builtin tag) store ""
  | symbol {store : ScopeStore} {path : ScopePath} {name : String} {value : Value}
      (ordinary : ∀ tag : Builtin, name ≠ tag.name)
      (resolves : Resolves store name path.innermostFirst value) (known : value ≠ .void) :
      Evaluates store path (.sym name) value store ""
  | quote (store : ScopeStore) (path : ScopePath) (datum others : Value) :
      Evaluates store path (.pair (.sym "quote") (.pair datum others)) datum store ""
  | define {store middle later : ScopeStore} {path : ScopePath} {name text : String}
      {expr value : Value} (operand : Evaluates store path expr value middle text)
      (known : value ≠ .void) (defined : middle.define path.current name value = .ok later) :
      Evaluates store path (Value.ofList [.sym "define", .sym name, expr]) .void later text
  | lambda (store : ScopeStore) (path : ScopePath) (params : List String) (body : Value) :
      Evaluates store path
        (Value.ofList [.sym "lambda", Value.ofList (params.map .sym), body])
        (.lambda params body (path.push store.size)) (store.add .empty).2 ""
  | ifTrue {store middle later : ScopeStore} {path : ScopePath} {first second : String}
      {condition whenTrue whenFalse value : Value}
      (chosen : Evaluates store path condition (.bool true) middle first)
      (branch : Evaluates middle path whenTrue value later second) :
      Evaluates store path (Value.ofList [.sym "if", condition, whenTrue, whenFalse]) value later
        (first ++ second)
  | ifFalse {store middle later : ScopeStore} {path : ScopePath} {first second : String}
      {condition whenTrue whenFalse value : Value}
      (chosen : Evaluates store path condition (.bool false) middle first)
      (branch : Evaluates middle path whenFalse value later second) :
      Evaluates store path (Value.ofList [.sym "if", condition, whenTrue, whenFalse]) value later
        (first ++ second)
  | invoke {store middle later : ScopeStore} {path : ScopePath} {first second third : String}
      {operator value : Value} {operands arguments : List Value} {tag : Builtin}
      (ordinary : ∀ form : SpecialForm, operator ≠ .sym form.name)
      (function : Evaluates store path operator (.builtin tag) middle first)
      (each : EvaluatesEach middle path operands arguments later second)
      (gives : tag.Gives arguments value third) :
      Evaluates store path (.pair operator (Value.ofList operands)) value later
        (first ++ second ++ third)
  | apply {store middle before later : ScopeStore} {path captured : ScopePath}
      {first second third : String} {operator body value : Value}
      {operands arguments : List Value} {params : List String}
      (ordinary : ∀ form : SpecialForm, operator ≠ .sym form.name)
      (function : Evaluates store path operator (.lambda params body captured) middle first)
      (each : EvaluatesEach middle path operands arguments before second)
      (arity : arguments.length = params.length)
      (applied : Evaluates (before.add (.ofBindings (params.zip arguments))).2
        (captured.push before.size) body value later third) :
      Evaluates store path (.pair operator (Value.ofList operands)) value later
        (first ++ second ++ third)

/-- The same of expressions one after the other, each of which must produce a value. -/
inductive EvaluatesEach :
    ScopeStore → ScopePath → List Value → List Value → ScopeStore → String → Prop
  | nil (store : ScopeStore) (path : ScopePath) : EvaluatesEach store path [] [] store ""
  | cons {store middle later : ScopeStore} {path : ScopePath} {first second : String}
      {expr value : Value} {exprs values : List Value}
      (head : Evaluates store path expr value middle first) (known : value ≠ .void)
      (others : EvaluatesEach middle path exprs values later second) :
      EvaluatesEach store path (expr :: exprs) (value :: values) later (first ++ second)

end

/-! ### The rules against the operations -/

theorem ofName?_eq_none_iff {name : String} :
    Builtin.ofName? name = none ↔ ∀ tag : Builtin, name ≠ tag.name := by
  rw [Option.eq_none_iff_forall_ne_some]
  exact forall_congr' fun tag => not_congr Builtin.ofName?_eq_some_iff

theorem resolveIn_eq_ok_iff {store : ScopeStore} {name : String} {ids : List Int} {value : Value} :
    store.resolveIn name ids = .ok (some value) ↔ Resolves store name ids value := by
  constructor
  · intro found
    induction ids with
    | nil => cases found
    | cons id ids ih =>
        rw [ScopeStore.resolveIn] at found
        cases known : store.scope? id with
        | none =>
            rw [known] at found
            cases found
        | some scope =>
            rw [known] at found
            cases bound : scope.get? name with
            | some value =>
                simp only [bound] at found
                cases found
                exact .here known bound
            | none =>
                simp only [bound] at found
                exact .further known bound (ih found)
  · intro resolves
    induction resolves with
    | here found bound => simp only [ScopeStore.resolveIn, found, bound]
    | further found free outer ih => simp only [ScopeStore.resolveIn, found, free, ih]

/-! ### What evaluation ends with follows by the rules -/

/-- The outcome of an evaluation follows by the rules; what is printed is added to the output. -/
def Derived (start : World) (path : ScopePath) (expr value : Value) (later : World) : Prop :=
  ∃ text, later.output = start.output ++ text ∧
    Evaluates start.store path expr value later.store text

/-- All values that an evaluator ends with follow by the rules. -/
def Evaluator.Lawful (evaluate : Evaluator) : Prop :=
  ∀ expr path start,
    Ensures (evaluate expr path) start (Derived start path expr) fun _ _ => True

section Soundness

variable {evaluate : Evaluator} (lawful : evaluate.Lawful) (path : ScopePath) (start : World)

theorem Derived.silent {path : ScopePath} {start : World} {expr value : Value}
    (evaluates : Evaluates start.store path expr value start.store "") :
    Derived start path expr value start := ⟨"", (String.append_empty).symm, evaluates⟩

theorem ensures_evalSymbol (name : String) :
    Ensures (evalSymbol name path) start (Derived start path (.sym name)) fun _ _ => True := by
  unfold evalSymbol
  cases named : Builtin.ofName? name with
  | some tag =>
      obtain rfl := Builtin.ofName?_eq_some_iff.mp named
      exact .silent (.builtin start.store path tag)
  | none =>
      rw [ensures_bind, ensures_resolve]
      refine ⟨fun found resolved => ?_, fun _ _ => trivial⟩
      have ordinary := ofName?_eq_none_iff.mp named
      cases found with
      | none => trivial
      | some value =>
          have resolves := resolveIn_eq_ok_iff.mp resolved
          cases value with
          | void => trivial
          | _ => exact .silent (.symbol ordinary resolves (by simp))

include lawful

theorem ensures_evalArguments (exprs done : List Value) :
    Ensures (evalArguments evaluate path exprs done) start
      (fun arguments later => ∃ values text, arguments = done.reverse ++ values ∧
        later.output = start.output ++ text ∧
        EvaluatesEach start.store path exprs values later.store text)
      fun _ _ => True := by
  induction exprs generalizing done start with
  | nil => exact ⟨[], "", (List.append_nil _).symm, (String.append_empty).symm, .nil _ _⟩
  | cons expr exprs ih =>
      rw [evalArguments, ensures_bind]
      refine Ensures.mono (lawful expr path start) ?_ fun _ _ _ => trivial
      rintro value middle ⟨first, printed, evaluates⟩
      by_cases known : value = .void
      · subst known
        trivial
      · have onward : Ensures (evalArguments evaluate path exprs (value :: done)) middle
            (fun arguments later => ∃ values text, arguments = done.reverse ++ values ∧
              later.output = start.output ++ text ∧
              EvaluatesEach start.store path (expr :: exprs) values later.store text)
            fun _ _ => True := by
          refine Ensures.mono (ih middle (value :: done)) ?_ fun _ _ _ => trivial
          rintro arguments later ⟨values, second, rfl, more, each⟩
          refine ⟨value :: values, first ++ second, by simp, ?_, .cons evaluates known each⟩
          rw [more, printed, String.append_assoc]
        cases value with
        | void => exact absurd rfl known
        | _ => exact onward

theorem ensures_evalValue (expr : Value) :
    Ensures (evalValue evaluate expr path) start (Derived start path expr) fun _ _ => True := by
  rw [evalValue, ensures_bind]
  refine Ensures.mono (lawful expr path start) (fun value later derived => ?_) fun _ _ _ => trivial
  cases value with
  | void => trivial
  | _ => exact derived

/-- The operator, the arguments and the function together make up a call. -/
theorem ensures_evalCall (operator operands : Value)
    (ordinary : SpecialForm.ofOperator? operator = none) :
    Ensures (evalCall evaluate (.pair operator operands) operator operands path) start
      (Derived start path (.pair operator operands)) fun _ _ => True := by
  rw [evalCall_eq, ensures_bind]
  refine Ensures.mono (ensures_evalValue lawful path start operator) ?_ fun _ _ _ => trivial
  rintro value middle ⟨first, printed, function⟩
  rw [ensures_bind, ensures_ofExcept]
  refine ⟨fun callable called => ?_, fun _ _ => trivial⟩
  rw [ensures_bind, ensures_ofExcept]
  refine ⟨fun exprs listed => ?_, fun _ _ => trivial⟩
  rw [ensures_bind]
  refine Ensures.mono (ensures_evalArguments lawful path middle exprs []) ?_ fun _ _ _ => trivial
  rintro arguments before ⟨values, second, rfl, more, each⟩
  obtain rfl := Callable.ofValue_eq_ok_iff.mp called
  obtain rfl := Value.elements_eq_ok_iff.mp listed
  have special := ofOperator?_eq_none_iff.mp ordinary
  cases callable with
  | builtin tag =>
      refine ensures_invoke.mpr ⟨fun result third applied => ?_, fun _ _ => trivial⟩
      refine ⟨first ++ second ++ third, ?_,
        .invoke special function each (Builtin.apply_eq_ok_iff.mp applied)⟩
      simp only [more, printed, String.append_assoc]
  | closure procedure =>
      rw [Callable.call, Closure.bindArguments, ensures_bind, ensures_bind, ensures_ofExcept]
      refine ⟨fun scope bound => ?_, fun _ _ => trivial⟩
      obtain ⟨arity, rfl⟩ := Closure.argumentScope_eq_ok_iff.mp bound
      rw [ensures_bind, ensures_addScope, ensures_pure]
      refine Ensures.mono (lawful procedure.body _ _) ?_ fun _ _ _ => trivial
      rintro result later ⟨third, last, applied⟩
      refine ⟨first ++ second ++ third, ?_, .apply special function each arity applied⟩
      simp only [last, more, printed, String.append_assoc]

/-- **One step of evaluation follows the rules**, if the evaluation of the parts does. -/
theorem Evaluator.Lawful.evalStep : Evaluator.Lawful (evalStep evaluate) := by
  intro expr path start
  rw [evalStep_eq]
  have fits := expr.fits_shape
  generalize expr.shape = shape at fits
  cases fits with
  | self itself => exact .silent (.self itself)
  | quote datum others => exact .silent (.quote start.store path datum others)
  | symbol name => exact ensures_evalSymbol path start name
  | define name operand =>
      rw [evalShape, ensures_bind]
      refine Ensures.mono (lawful operand path start) ?_ fun _ _ _ => trivial
      rintro value middle ⟨text, printed, evaluates⟩
      by_cases known : value = .void
      · subst known
        trivial
      · have defined : Ensures (do EvalM.define path.current name value; return Value.void) middle
            (Derived start path (Value.ofList [.sym "define", .sym name, operand]))
            fun _ _ => True := by
          rw [ensures_bind, ensures_define]
          by_cases exists_ : middle.store.contains path.current
          · rw [if_pos exists_]
            refine ⟨text, printed, .define evaluates known ?_⟩
            rw [ScopeStore.define, if_pos exists_]
          · rw [if_neg exists_]
            trivial
        cases value with
        | void => exact absurd rfl known
        | _ => exact defined
  | lambda params body =>
      rw [evalShape, ensures_bind, ensures_addScope]
      exact ⟨"", (String.append_empty).symm, .lambda start.store path params body⟩
  | branch condition whenTrue whenFalse =>
      rw [evalShape, ensures_bind]
      refine Ensures.mono (lawful condition path start) ?_ fun _ _ _ => trivial
      rintro value middle ⟨first, printed, chosen⟩
      cases value with
      | bool flag =>
          cases flag with
          | true =>
              refine Ensures.mono (lawful whenTrue path middle) ?_ fun _ _ _ => trivial
              rintro result later ⟨second, more, branch⟩
              refine ⟨first ++ second, ?_, .ifTrue chosen branch⟩
              rw [more, printed, String.append_assoc]
          | false =>
              refine Ensures.mono (lawful whenFalse path middle) ?_ fun _ _ _ => trivial
              rintro result later ⟨second, more, branch⟩
              refine ⟨first ++ second, ?_, .ifFalse chosen branch⟩
              rw [more, printed, String.append_assoc]
      | _ => trivial
  | call operands ordinary => exact ensures_evalCall lawful path start _ operands ordinary
  | misshapen | mark => trivial

end Soundness

/-- **What evaluation ends with follows by the rules**, at whatever depth. -/
theorem lawful_eval (depth : Nat) : (eval depth).Lawful := by
  induction depth with
  | zero => exact fun _ _ _ => trivial
  | succ depth ih => exact ih.evalStep

/-! ### What follows by the rules is what evaluation ends with -/

/-- At every depth from some depth on, evaluation ends with the given outcome. -/
def Runs (store : ScopeStore) (path : ScopePath) (expr value : Value) (later : ScopeStore)
    (text : String) : Prop :=
  ∀ᶠ depth in Filter.atTop, ∀ output,
    eval depth expr path ⟨store, output⟩ = .ok value ⟨later, output ++ text⟩

/-- The same of arguments one after the other. -/
def RunsEach (store : ScopeStore) (path : ScopePath) (exprs values : List Value)
    (later : ScopeStore) (text : String) : Prop :=
  ∀ᶠ depth in Filter.atTop, ∀ output done,
    evalArguments (eval depth) path exprs done ⟨store, output⟩
      = .ok (done.reverse ++ values) ⟨later, output ++ text⟩

section Parts

variable {evaluate : Evaluator} {path : ScopePath} {expr value : Value} {state later : World}
  (ended : evaluate expr path state = .ok value later) (known : value ≠ .void)
include ended known

theorem evalValue_of_ok : evalValue evaluate expr path state = .ok value later := by
  rw [evalValue, bind_of_ok ended]
  cases value with
  | void => exact absurd rfl known
  | _ => rfl

theorem evalArguments_of_ok (exprs done : List Value) :
    evalArguments evaluate path (expr :: exprs) done state
      = evalArguments evaluate path exprs (value :: done) later := by
  rw [evalArguments, bind_of_ok ended]
  cases value with
  | void => exact absurd rfl known
  | _ => rfl

theorem evalShape_define_of_ok {name : String} {store : ScopeStore} (form : Value)
    (defined : later.store.define path.current name value = .ok store) :
    evalShape evaluate form path (.define name expr) state = .ok .void { later with store } := by
  have bound : EvalM.define path.current name value later = .ok () { later with store } := by
    rw [EvalM.define_apply, defined]
  have whole : (do EvalM.define path.current name value; return Value.void : EvalM Value) later
      = .ok .void { later with store } := bind_of_ok bound
  rw [evalShape, bind_of_ok ended]
  cases value with
  | void => exact absurd rfl known
  | _ => exact whole

end Parts

/-- A call whose operator and arguments have values is the call of the function. -/
theorem evalCall_of_ok {evaluate : Evaluator} {path : ScopePath} {operator : Value}
    {exprs values : List Value} {state middle later : World} (form : Value) (callable : Callable)
    (function : evaluate operator path state = .ok callable.toValue middle)
    (each : evalArguments evaluate path exprs [] middle = .ok values later) :
    evalCall evaluate form operator (Value.ofList exprs) path state
      = callable.call evaluate (Value.ofList values) later := by
  have known : callable.toValue ≠ .void := by
    cases callable <;> simp [Callable.toValue, Closure.toValue]
  rw [evalCall_eq, bind_of_ok (evalValue_of_ok function known),
    Callable.ofValue_eq_ok_iff.mpr rfl, Value.elements_ofList]
  exact bind_of_ok each

theorem invoke_of_gives {tag : Builtin} {values : List Value} {value : Value} {text : String}
    (gives : tag.Gives values value text) (state : World) :
    tag.invoke (Value.ofList values) state
      = .ok value { state with output := state.output ++ text } := by
  rw [Builtin.invoke, Builtin.apply_eq_ok_iff.mpr gives]
  rfl

/-- A closure that is given an argument for each parameter evaluates its body in a new scope. -/
theorem call_closure {procedure : Closure} {values : List Value}
    (arity : values.length = procedure.params.length) (evaluate : Evaluator) (state : World) :
    (Callable.closure procedure).call evaluate (Value.ofList values) state
      = evaluate procedure.body (procedure.path.push state.store.size)
          { state with store := (state.store.add (.ofBindings (procedure.params.zip values))).2 } := by
  rw [Callable.call, Closure.bindArguments, Closure.argumentScope_eq_ok_iff.mpr ⟨arity, rfl⟩]
  rfl

theorem Runs.of_shape {store later : ScopeStore} {path : ScopePath} {expr value : Value}
    {text : String} (shape : Shape) (shaped : expr.shape = shape)
    (ended : ∀ᶠ depth in Filter.atTop, ∀ output,
      evalShape (eval depth) expr path shape ⟨store, output⟩ = .ok value ⟨later, output ++ text⟩) :
    Runs store path expr value later text := by
  subst shaped
  -- the parts are evaluated one level below the expression
  rw [Runs, ← Filter.map_add_atTop_eq_nat 1, Filter.eventually_map]
  refine ended.mono fun depth same output => ?_
  rw [eval_succ, evalStep_eq, same output]

theorem evalSymbol_builtin (tag : Builtin) (path : ScopePath) :
    evalSymbol tag.name path = pure (.builtin tag) := by
  rw [evalSymbol, Builtin.ofName?_eq_some_iff.mpr rfl]

theorem evalSymbol_of_resolves {name : String} {path : ScopePath} {value : Value} {state : World}
    (ordinary : ∀ tag : Builtin, name ≠ tag.name)
    (resolves : Resolves state.store name path.innermostFirst value) (known : value ≠ .void) :
    evalSymbol name path state = .ok value state := by
  have resolved : EvalM.resolve path name state = .ok (some value) state := by
    rw [EvalM.resolve_apply, ScopeStore.resolve, resolveIn_eq_ok_iff.mpr resolves]
  rw [evalSymbol, ofName?_eq_none_iff.mpr ordinary]
  dsimp only
  rw [bind_of_ok resolved]
  cases value with
  | void => exact absurd rfl known
  | _ => rfl

mutual

/-- **What follows by the rules is what evaluation ends with**, at every depth from some depth on. -/
theorem Evaluates.runs {store later : ScopeStore} {path : ScopePath} {expr value : Value}
    {text : String} (evaluates : Evaluates store path expr value later text) :
    Runs store path expr value later text := by
  match evaluates with
  | .self itself =>
      refine .of_shape _ (Value.shape_of_standsForItself itself) (.of_forall fun depth output => ?_)
      rw [String.append_empty]
      rfl
  | .builtin store path tag =>
      refine .of_shape (.symbol tag.name) rfl (.of_forall fun depth output => ?_)
      rw [String.append_empty, evalShape, evalSymbol_builtin]
      rfl
  | .symbol ordinary resolves known =>
      refine .of_shape (.symbol _) rfl (.of_forall fun depth output => ?_)
      rw [String.append_empty]
      exact evalSymbol_of_resolves ordinary resolves known
  | .quote store path datum others =>
      refine .of_shape (.constant datum) rfl (.of_forall fun depth output => ?_)
      rw [String.append_empty]
      rfl
  | .define operand known defined =>
      refine .of_shape (.define _ _) rfl (operand.runs.mono fun depth one output => ?_)
      exact evalShape_define_of_ok (one output) known _ defined
  | .lambda store path params body =>
      refine .of_shape _ (Value.shape_lambda params body) (.of_forall fun depth output => ?_)
      rw [String.append_empty]
      rfl
  | .ifTrue chosen branch | .ifFalse chosen branch =>
      refine .of_shape (.branch _ _ _) rfl
        ((chosen.runs.and branch.runs).mono fun depth ⟨one, two⟩ output => ?_)
      rw [evalShape, bind_of_ok (one output), ← String.append_assoc]
      exact two _
  | .invoke ordinary function each gives =>
      refine .of_shape _ (Value.shape_call _ ordinary)
        ((function.runs.and each.runs).mono fun depth ⟨one, two⟩ output => ?_)
      rw [evalShape, evalCall_of_ok _ (.builtin _) (one output) (two _ []), ← String.append_assoc,
        ← String.append_assoc]
      exact invoke_of_gives gives _
  | .apply ordinary function each arity applied =>
      refine .of_shape _ (Value.shape_call _ ordinary)
        ((function.runs.and (each.runs.and applied.runs)).mono
          fun depth ⟨one, two, three⟩ output => ?_)
      rw [evalShape, evalCall_of_ok _ (.closure ⟨_, _, _⟩) (one output) (two _ []),
        ← String.append_assoc, ← String.append_assoc]
      exact (call_closure arity _ _).trans (three _)

theorem EvaluatesEach.runs {store later : ScopeStore} {path : ScopePath} {exprs values : List Value}
    {text : String} (evaluates : EvaluatesEach store path exprs values later text) :
    RunsEach store path exprs values later text := by
  match evaluates with
  | .nil store path =>
      refine .of_forall fun depth output done => ?_
      rw [List.append_nil, String.append_empty]
      rfl
  | .cons head known others =>
      refine (head.runs.and others.runs).mono fun depth ⟨one, two⟩ output done => ?_
      rw [evalArguments_of_ok (one output) known, two, List.reverse_cons, List.append_assoc,
        List.singleton_append, String.append_assoc]

end

/-- **At most one outcome** follows by the rules. -/
theorem Evaluates.unique {store later last : ScopeStore} {path : ScopePath} {expr value other : Value}
    {text more : String} (evaluates : Evaluates store path expr value later text)
    (again : Evaluates store path expr other last more) :
    value = other ∧ later = last ∧ text = more := by
  -- both outcomes are what evaluation ends with, at a depth that is enough for both
  obtain ⟨depth, one, two⟩ := (evaluates.runs.and again.runs).exists
  have same := (one "").symm.trans (two "")
  injection same with values worlds
  injection worlds with stores outputs
  rw [String.empty_append, String.empty_append] at outputs
  exact ⟨values, stores, outputs⟩

/-- **Evaluation implements the rules.** For every expression, store and path: evaluation ends, at
some depth, with a value, a store and a printed text if and only if they follow by the rules; it then
ends with them at every depth from some depth on; and no other outcome follows by the rules. -/
theorem eval_iff_evaluates (store : ScopeStore) (path : ScopePath) (expr value : Value)
    (output : String) (later : World) :
    ((∃ depth, eval depth expr path ⟨store, output⟩ = .ok value later) ↔
      ∃ text, Evaluates store path expr value later.store text ∧ later.output = output ++ text) ∧
    (∀ text, Evaluates store path expr value later.store text → ∃ enough, ∀ depth ≥ enough,
      eval depth expr path ⟨store, output⟩ = .ok value ⟨later.store, output ++ text⟩) ∧
    (∀ text, Evaluates store path expr value later.store text → ∀ other last more,
      Evaluates store path expr other last more →
        value = other ∧ later.store = last ∧ text = more) := by
  have reached : ∀ text, Evaluates store path expr value later.store text → ∃ enough,
      ∀ depth ≥ enough,
        eval depth expr path ⟨store, output⟩ = .ok value ⟨later.store, output ++ text⟩ := by
    intro text evaluates
    obtain ⟨enough, runs⟩ := Filter.eventually_atTop.mp evaluates.runs
    exact ⟨enough, fun depth deep => runs depth deep output⟩
  refine ⟨⟨?_, ?_⟩, reached, fun text evaluates other last more again => evaluates.unique again⟩
  · rintro ⟨depth, ended⟩
    have derived := lawful_eval depth expr path ⟨store, output⟩
    rw [Ensures, ended] at derived
    obtain ⟨text, printed, evaluates⟩ := derived
    exact ⟨text, evaluates, printed⟩
  · rintro ⟨text, evaluates, printed⟩
    obtain ⟨enough, runs⟩ := reached text evaluates
    refine ⟨enough, ?_⟩
    rw [runs enough le_rfl, ← printed]

end SmallLisp
