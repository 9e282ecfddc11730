/-
**Bindings of built-in names.**

A symbol that names a built-in is never looked up, so no binding of such a name, wherever it was made,
makes any difference. Two evaluations of the same expression in stores that differ only in such
bindings run in lockstep.

* `Lockstep`: a computation, run in two related worlds, ends in the same way and in related worlds;
* `lockstep_eval`: evaluation does, for every relation that the operations on the world respect
  (`Respected`); of the look-ups, only those of names that are not built in have to;
* `Agreement.respected`: having the same bindings of all other names is such a relation, with or
  without regard to their order.
-/

import SmallLisp.Proofs.Eval.Shape
import SmallLisp.Proofs.Eval.Together

namespace SmallLisp

variable {α β : Type}

/-! ### Evaluation in lockstep -/

/-- In worlds that are related, a computation ends in the same way, and in related worlds. -/
def Lockstep (related : World → World → Prop) (computation : EvalM α) : Prop :=
  ∀ left right, related left right → Together computation computation left right
    (fun value later other last => other = value ∧ related later last)
    (fun fault later other last => other = fault ∧ related later last)

/-- The operations on the world respect a relation between worlds. -/
structure Respected (related : World → World → Prop) : Prop where
  print : ∀ text, Lockstep related (EvalM.print text)
  addScope : ∀ scope, Lockstep related (EvalM.addScope scope)
  define : ∀ id name value, Lockstep related (EvalM.define id name value)
  resolve : ∀ path name, Builtin.ofName? name = none → Lockstep related (EvalM.resolve path name)

namespace Lockstep

variable {related : World → World → Prop}

theorem pure (value : α) : Lockstep related (Pure.pure value) :=
  fun _ _ here => together_pure.mpr ⟨rfl, here⟩

theorem throw (fault : Fault) : Lockstep related (MonadExcept.throw fault : EvalM α) :=
  fun _ _ here => together_throw.mpr ⟨rfl, here⟩

theorem bind {first : EvalM α} {next : α → EvalM β} (one : Lockstep related first)
    (rest : ∀ value, Lockstep related (next value)) : Lockstep related (first >>= next) := by
  intro left right here
  refine (one left right here).bind ?_
  rintro value later other last ⟨same, there⟩
  rw [same]
  exact rest value later last there

theorem check (check : Except Fault α) : Lockstep related (EvalM.ofExcept check) := by
  cases check with
  | ok value => exact pure value
  | error fault => exact throw fault

end Lockstep

section Evaluation

variable {related : World → World → Prop} (respected : Respected related)
include respected

/-- A symbol is looked up only if it names no built-in. -/
theorem lockstep_evalSymbol (name : String) (path : ScopePath) :
    Lockstep related (evalSymbol name path) := by
  unfold evalSymbol
  cases ordinary : Builtin.ofName? name with
  | some tag => exact .pure _
  | none =>
      refine (respected.resolve path name ordinary).bind fun found => ?_
      split
      · exact .throw _
      · exact .throw _
      · exact .pure _

variable {evaluate : Evaluator} (parts : ∀ expr path, Lockstep related (evaluate expr path))
include parts

omit respected in
theorem lockstep_evalArguments (path : ScopePath) (items done : List Value) :
    Lockstep related (evalArguments evaluate path items done) := by
  induction items generalizing done with
  | nil => exact .pure _
  | cons item rest ih =>
      refine (parts item path).bind fun value => ?_
      cases value with
      | void => exact .throw _
      | _ => exact ih _

theorem lockstep_call (arguments : Value) (callable : Callable) :
    Lockstep related (callable.call evaluate arguments) := by
  cases callable with
  | builtin tag => exact (Lockstep.check _).bind fun result => (respected.print _).bind fun _ => .pure _
  | closure procedure =>
      refine Lockstep.bind ?_ fun inner => parts _ inner
      exact (Lockstep.check _).bind fun scope => (respected.addScope scope).bind fun _ => .pure _

/-- **One step of evaluation runs in lockstep** if the evaluation of the parts does. -/
theorem lockstep_evalShape (expr : Value) (path : ScopePath) (shape : Shape) :
    Lockstep related (evalShape evaluate expr path shape) := by
  cases shape with
  | constant value => exact .pure _
  | malformed fault => exact .throw _
  | symbol name => exact lockstep_evalSymbol respected name path
  | lambda params body => exact (respected.addScope _).bind fun _ => .pure _
  | define name operand =>
      refine (parts operand path).bind fun value => ?_
      cases value with
      | void => exact .throw _
      | _ => exact (respected.define path.current name _).bind fun _ => .pure _
  | branch condition whenTrue whenFalse =>
      refine (parts condition path).bind fun value => ?_
      cases value with
      | bool selected =>
          cases selected with
          | true => exact parts whenTrue path
          | false => exact parts whenFalse path
      | _ => exact .throw _
  | call operator operands =>
      show Lockstep related (evalCall evaluate expr operator operands path)
      rw [evalCall_eq]
      refine Lockstep.bind ?_ fun value => (Lockstep.check _).bind fun callable =>
        (Lockstep.check _).bind fun items =>
          (lockstep_evalArguments parts path items []).bind fun arguments =>
            lockstep_call respected parts _ callable
      refine (parts operator path).bind fun value => ?_
      cases value with
      | void => exact .throw _
      | _ => exact .pure _

omit parts

/-- **Evaluation runs in lockstep**, to whatever depth. -/
theorem lockstep_eval (depth : Nat) (expr : Value) (path : ScopePath) :
    Lockstep related (eval depth expr path) := by
  induction depth generalizing expr path with
  | zero => exact .throw _
  | succ depth ih =>
      rw [eval_succ, evalStep_eq]
      exact lockstep_evalShape respected ih expr path expr.shape

end Evaluation

/-! ### Scopes that agree off the built-ins -/

namespace Scope

/-- Two scopes bind every name that is not built in alike. -/
def AgreesOff (scope other : Scope) : Prop :=
  ∀ name, Builtin.ofName? name = none → other.get? name = scope.get? name

/-- The bindings of the names that are not built in, in order. -/
def ordinary (scope : Scope) : List (String × Value) :=
  scope.bindings.filter fun binding => (Builtin.ofName? binding.1).isNone

/-- Two scopes have the same bindings of names that are not built in, in the same order. -/
def AgreesInOrderOff (scope other : Scope) : Prop := other.ordinary = scope.ordinary

instance (scope other : Scope) : Decidable (scope.AgreesInOrderOff other) :=
  inferInstanceAs (Decidable (other.ordinary = scope.ordinary))

/-- A binding of a built-in name counts for nothing. -/
theorem ordinary_define (scope : Scope) (name : String) (value : Value) :
    (scope.define name value).ordinary =
      if (Builtin.ofName? name).isNone then defineIn name value scope.ordinary
      else scope.ordinary := by
  obtain ⟨bindings⟩ := scope
  show (defineIn name value bindings).filter _ = _
  unfold ordinary
  induction bindings with
  | nil => by_cases free : (Builtin.ofName? name).isNone <;> simp [defineIn, free]
  | cons binding rest ih =>
      obtain ⟨bound, old⟩ := binding
      by_cases same : bound = name
      · subst same
        by_cases free : (Builtin.ofName? bound).isNone <;> simp [defineIn, free]
      · by_cases free : (Builtin.ofName? name).isNone <;>
          by_cases kept : (Builtin.ofName? bound).isNone <;>
          simp_all [defineIn]

theorem findIn_ordinary (scope : Scope) {name : String} (free : Builtin.ofName? name = none) :
    findIn name scope.ordinary = scope.get? name := by
  obtain ⟨bindings⟩ := scope
  show findIn name (bindings.filter _) = findIn name bindings
  induction bindings with
  | nil => rfl
  | cons binding rest ih =>
      obtain ⟨bound, old⟩ := binding
      by_cases same : bound = name
      · subst same
        simp [findIn, free]
      · by_cases kept : (Builtin.ofName? bound).isNone <;> simp [findIn, same, kept, ih]

end Scope

/-- A way in which scopes can agree that leaves no difference between names that are not built in, and
that is kept when a binding is made in both scopes. -/
structure Agreement (agrees : Scope → Scope → Prop) : Prop where
  refl : ∀ scope, agrees scope scope
  agreesOff : ∀ {scope other : Scope}, agrees scope other → scope.AgreesOff other
  define : ∀ {scope other : Scope} (name : String) (value : Value), agrees scope other →
    agrees (scope.define name value) (other.define name value)

theorem agreement_agreesOff : Agreement Scope.AgreesOff where
  refl _ _ _ := rfl
  agreesOff agrees := agrees
  define name value agrees asked free := by
    rw [Scope.get?_define, Scope.get?_define, agrees asked free]

theorem agreement_agreesInOrderOff : Agreement Scope.AgreesInOrderOff where
  refl _ := rfl
  agreesOff {scope other} agrees name free := by
    rw [← other.findIn_ordinary free, ← scope.findIn_ordinary free, agrees]
  define {scope other} name value agrees := by
    rw [Scope.AgreesInOrderOff, Scope.ordinary_define, Scope.ordinary_define, agrees]

/-- Two stores of equal length whose scopes agree, each with the one of the same number. -/
structure ScopeStore.Agree (agrees : Scope → Scope → Prop) (left right : ScopeStore) : Prop where
  size : right.size = left.size
  scopes : ∀ id scope other, left.scope? id = some scope → right.scope? id = some other →
    agrees scope other

namespace ScopeStore.Agree

variable {agrees : Scope → Scope → Prop} {left right : ScopeStore}

theorem contains (agree : left.Agree agrees right) (id : Int) :
    right.contains id = left.contains id := by
  rw [Bool.eq_iff_iff, contains_iff, contains_iff, agree.size]

/-- The scopes of a number exist together. -/
theorem find (agree : left.Agree agrees right) (id : Int) :
    (left.scope? id = none ∧ right.scope? id = none) ∨
      ∃ scope other, left.scope? id = some scope ∧ right.scope? id = some other ∧
        agrees scope other := by
  have together := agree.contains id
  rw [contains_eq_isSome, contains_eq_isSome] at together
  cases found : left.scope? id with
  | none =>
      rw [found] at together
      exact .inl ⟨rfl, Option.not_isSome_iff_eq_none.mp (by rw [together]; decide)⟩
  | some scope =>
      rw [found] at together
      obtain ⟨other, foundOther⟩ := Option.isSome_iff_exists.mp together
      exact .inr ⟨scope, other, rfl, foundOther, agree.scopes id scope other found foundOther⟩

theorem add (agree : left.Agree agrees right) {scope : Scope} (same : agrees scope scope) :
    (left.add scope).2.Agree agrees (right.add scope).2 := by
  refine ⟨by rw [size_add, size_add, agree.size], fun id one two found foundOther => ?_⟩
  have next : (right.add scope).1 = (left.add scope).1 := congrArg Nat.cast agree.size
  rw [scope?_add] at found foundOther
  rw [next] at foundOther
  by_cases new : id = (left.add scope).1
  · rw [if_pos new] at found foundOther
    cases found
    cases foundOther
    exact same
  · rw [if_neg new] at found foundOther
    exact agree.scopes id one two found foundOther

theorem bindAt (agreement : Agreement agrees) (agree : left.Agree agrees right) (index : Nat)
    (name : String) (value : Value) :
    (left.bindAt index name value).Agree agrees (right.bindAt index name value) := by
  refine ⟨by rw [size_bindAt, size_bindAt, agree.size], fun id one two found foundOther => ?_⟩
  rw [scope?_bindAt] at found foundOther
  by_cases here : id = index
  · rw [if_pos here] at found foundOther
    obtain ⟨old, isOld, rfl⟩ := Option.map_eq_some_iff.mp found
    obtain ⟨otherOld, isOtherOld, rfl⟩ := Option.map_eq_some_iff.mp foundOther
    exact agreement.define name value (agree.scopes id old otherOld isOld isOtherOld)
  · rw [if_neg here] at found foundOther
    exact agree.scopes id one two found foundOther

/-- **A name that is not built in is resolved alike**, along any path and also to no avail. -/
theorem resolve (agreement : Agreement agrees) (agree : left.Agree agrees right) (path : ScopePath)
    {name : String} (free : Builtin.ofName? name = none) :
    right.resolve path name = left.resolve path name := by
  unfold ScopeStore.resolve
  induction path.innermostFirst with
  | nil => rfl
  | cons id rest ih =>
      rcases agree.find id with ⟨missing, missingOther⟩ | ⟨scope, other, found, foundOther, here⟩
      · simp only [resolveIn, missing, missingOther]
      · simp only [resolveIn, found, foundOther, agreement.agreesOff here name free, ih]

end ScopeStore.Agree

/-! ### Two evaluations that differ off the built-ins -/

/-- From the worlds `left` and `right` to worlds whose stores agree: the same text has been printed. -/
structure World.Abreast (agrees : Scope → Scope → Prop) (left right later last : World) : Prop where
  stores : later.store.Agree agrees last.store
  printed : ∃ text, later.output = left.output ++ text ∧ last.output = right.output ++ text

/-- The operations on the world keep two worlds abreast. -/
theorem Agreement.respected {agrees : Scope → Scope → Prop} (agreement : Agreement agrees)
    (left right : World) : Respected (World.Abreast agrees left right) where
  print text later last abreast := by
    obtain ⟨before, printed, otherPrinted⟩ := abreast.printed
    refine ⟨rfl, abreast.stores, before ++ text, ?_, ?_⟩
    · show later.output ++ text = _
      rw [printed, String.append_assoc]
    · show last.output ++ text = _
      rw [otherPrinted, String.append_assoc]
  addScope scope later last abreast := by
    refine ⟨?_, abreast.stores.add (agreement.refl scope), abreast.printed⟩
    exact congrArg Nat.cast abreast.stores.size
  define id name value later last abreast := by
    unfold Together
    rw [EvalM.define_apply, EvalM.define_apply, ScopeStore.define, ScopeStore.define,
      abreast.stores.contains]
    by_cases known : later.store.contains id
    · rw [if_pos known, if_pos known]
      exact ⟨rfl, abreast.stores.bindAt agreement _ name value, abreast.printed⟩
    · rw [if_neg known, if_neg known]
      exact ⟨rfl, abreast⟩
  resolve path name free later last abreast := by
    unfold Together
    rw [EvalM.resolve_apply, EvalM.resolve_apply, abreast.stores.resolve agreement path free]
    cases later.store.resolve path name with
    | ok found => exact ⟨rfl, abreast⟩
    | error fault => exact ⟨rfl, abreast⟩

/-- **Built-in names can never be shadowed.** Evaluate an expression under any path, to whatever depth,
in two stores of equal length that differ only in bindings of names of built-ins, in whatever scopes
these are and wherever they come from. Both evaluations end with the same value, or both without one,
or both with the same fault and so the same message; they print the same text, and the stores they
leave again differ only in such bindings. This is so whether the order of the other bindings counts as
a difference or not. -/
theorem builtins_never_shadowed (depth : Nat) (expr : Value) (path : ScopePath)
    (left right : World) :
    ∀ agrees ∈ [Scope.AgreesOff, Scope.AgreesInOrderOff], left.store.Agree agrees right.store →
      Together (eval depth expr path) (eval depth expr path) left right
        (fun value later other last => other = value ∧ World.Abreast agrees left right later last)
        (fun fault later other last =>
          other = fault ∧ World.Abreast agrees left right later last) := by
  intro agrees member agree
  have agreement : Agreement agrees := by
    rcases List.mem_pair.mp member with rfl | rfl
    · exact agreement_agreesOff
    · exact agreement_agreesInOrderOff
  have start : World.Abreast agrees left right left right :=
    ⟨agree, "", String.append_empty.symm, String.append_empty.symm⟩
  exact lockstep_eval (agreement.respected left right) depth expr path left right start

/-- In the first store `+` is bound, in the second `println`; the call binds `*`. All three symbols
stand for the built-ins. -/
theorem builtins_never_shadowed_parameter :
    let left : World := ⟨⟨#[⟨[("+", .int 7), ("x", .int 2)]⟩], by decide⟩, ""⟩
    let right : World := ⟨⟨#[⟨[("x", .int 2), ("println", .nil)]⟩], by decide⟩, ""⟩
    let body := Value.ofList [.sym "+", Value.ofList [.sym "println", .sym "x"], .sym "*"]
    let expr := Value.ofList [Value.ofList [.sym "lambda", Value.ofList [.sym "*"], body], .int 3]
    left.store.Agree Scope.AgreesInOrderOff right.store ∧
      ∃ fault later last, eval 9 expr .top left = .error fault later ∧
        eval 9 expr .top right = .error fault last ∧
        fault.message = "incorrect types in arguments to +: (() #<builtin *>)" ∧
        later.output = "2\n" ∧ later.store.Agree Scope.AgreesInOrderOff last.store := by
  intro left right body expr
  have agree : left.store.Agree Scope.AgreesInOrderOff right.store := by
    refine ⟨rfl, fun id scope other found foundOther => ?_⟩
    have known : left.store.contains id := by rw [ScopeStore.contains_eq_isSome, found]; rfl
    obtain rfl : id = 0 := by
      obtain ⟨low, high⟩ := ScopeStore.contains_iff.mp known
      exact Int.le_antisymm (Int.lt_add_one_iff.mp high) low
    cases found
    cases foundOther
    decide
  have failed : failure? (eval 9 expr .top) right
      = some (.operandTypes .add (Value.ofList [.nil, .builtin .mul])) := by decide +kernel
  have output : (after (eval 9 expr .top) right).output = "2\n" := by decide +kernel
  have stopped := failure?_eq_some.mp failed
  have alike := builtins_never_shadowed 9 expr .top left right Scope.AgreesInOrderOff (by simp) agree
  obtain ⟨fault, later, ended, rfl, abreast⟩ := alike.of_error stopped
  obtain ⟨text, printed, otherPrinted⟩ := abreast.printed
  refine ⟨agree, _, later, _, ended, stopped, by decide +kernel, ?_, abreast.stores⟩
  exact printed.trans (otherPrinted.symm.trans output)

end SmallLisp
