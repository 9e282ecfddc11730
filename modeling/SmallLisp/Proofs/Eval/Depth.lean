/-
**How deep an evaluation may go.**

The bound on the depth decides only whether an evaluation reaches its end, never which end. `Deepens`
relates a computation to one with a greater bound: the two have the same outcome in the same world, or
the first runs out of depth, after it has printed a part of what the second prints. Nothing between
the two handles an exhausted depth, so this is kept by every way of building computations.

* `deepens_evalShape`: one step of evaluation keeps the relation, by the seven shapes of expressions;
* `deepens_eval`: evaluation is related to evaluation with a greater bound;
* `depth_decides_reach`: the same for expressions, for top-level forms and for reading.
-/

import SmallLisp.Proofs.Eval.Shape
import SmallLisp.Proofs.Eval.Together
import SmallLisp.Proofs.Reader.Room

namespace SmallLisp

variable {α β : Type}

/-! ### What was printed -/

/-- What was printed in the one world is the start of what was printed in the other. -/
def World.Precedes (before later : World) : Prop := ∃ text, later.output = before.output ++ text

namespace World

theorem Precedes.refl (world : World) : world.Precedes world := ⟨"", String.append_empty.symm⟩

theorem Precedes.trans {first second third : World} (one : first.Precedes second)
    (two : second.Precedes third) : first.Precedes third := by
  obtain ⟨text, printed⟩ := one
  obtain ⟨more, added⟩ := two
  exact ⟨text ++ more, by rw [added, printed, String.append_assoc]⟩

end World

/-- However a computation ends, it takes back nothing that was printed. -/
def Prints (computation : EvalM α) : Prop := ∀ world : World, world.Precedes (after computation world)

theorem prints_of_ensures {computation : EvalM α}
    (holds : ∀ world : World, Ensures computation world (fun _ later => world.Precedes later)
      (fun _ later => world.Precedes later)) : Prints computation :=
  fun world => (ensures_state world.Precedes).mp (holds world)

namespace Prints

theorem pure (value : α) : Prints (Pure.pure value) := fun world => .refl world

theorem throw (fault : Fault) : Prints (MonadExcept.throw fault : EvalM α) := fun world => .refl world

/-- What follows a computation prints behind it. -/
theorem onward (first : EvalM α) {next : α → EvalM β} (rest : ∀ value, Prints (next value))
    (world : World) : (after first world).Precedes (after (first >>= next) world) := by
  rw [after_bind]
  unfold after
  cases first world with
  | ok value later => exact rest value later
  | error fault later => exact .refl later

theorem bind {first : EvalM α} {next : α → EvalM β} (one : Prints first)
    (rest : ∀ value, Prints (next value)) : Prints (first >>= next) :=
  fun world => (one world).trans (onward first rest world)

theorem check (check : Except Fault α) : Prints (EvalM.ofExcept check) := by
  cases check with
  | ok value => exact pure value
  | error fault => exact throw fault

theorem addScope (scope : Scope) : Prints (EvalM.addScope scope) := fun world => .refl world

theorem define (id : Int) (name : String) (value : Value) : Prints (EvalM.define id name value) := by
  refine prints_of_ensures fun world => ensures_define.mpr ?_
  split <;> exact .refl world

theorem resolve (path : ScopePath) (name : String) : Prints (EvalM.resolve path name) :=
  prints_of_ensures fun world =>
    ensures_resolve.mpr ⟨fun _ _ => .refl world, fun _ _ => .refl world⟩

theorem invoke (tag : Builtin) (arguments : Value) : Prints (tag.invoke arguments) :=
  prints_of_ensures fun world =>
    ensures_invoke.mpr ⟨fun _ text _ => ⟨text, rfl⟩, fun _ _ => .refl world⟩

theorem evalSymbol (name : String) (path : ScopePath) : Prints (evalSymbol name path) := by
  unfold SmallLisp.evalSymbol
  split
  · exact pure _
  · refine (resolve path name).bind fun found => ?_
    split
    · exact throw _
    · exact throw _
    · exact pure _

theorem bindArguments (procedure : Closure) (arguments : Value) :
    Prints (procedure.bindArguments arguments) :=
  (check _).bind fun scope => (addScope scope).bind fun _ => pure _

end Prints

/-! ### Computations with a greater bound -/

/-- The two computations have the same outcome in the same world, or the shallow one runs out of depth
after it has printed a part of what the deep one prints. -/
structure Deepens (shallow deep : EvalM α) : Prop where
  prints : Prints deep
  ends : ∀ world, deep world = shallow world
    ∨ failure? shallow world = some .depthExhausted ∧
      (after shallow world).Precedes (after deep world)

namespace Deepens

variable {shallow deep : EvalM α}

theorem same (prints : Prints deep) : Deepens deep deep := ⟨prints, fun _ => .inl rfl⟩

theorem pure (value : α) : Deepens (Pure.pure value) (Pure.pure value) := same (.pure value)

theorem throw (fault : Fault) :
    Deepens (MonadExcept.throw fault : EvalM α) (MonadExcept.throw fault) := same (.throw fault)

/-- No depth at all is exhausted before anything is printed. -/
theorem exhausted (prints : Prints deep) : Deepens (MonadExcept.throw .depthExhausted) deep :=
  ⟨prints, fun world => .inr ⟨rfl, prints world⟩⟩

/-- **One computation after the other.** If the first runs out of depth, so do both together, and what
the deep one prints comes on top. -/
theorem bind {next deepNext : α → EvalM β} (first : Deepens shallow deep)
    (rest : ∀ value, Deepens (next value) (deepNext value)) :
    Deepens (shallow >>= next) (deep >>= deepNext) := by
  refine ⟨first.prints.bind fun value => (rest value).prints, fun world => ?_⟩
  rcases first.ends world with ended | ⟨failed, printed⟩
  · cases outcome : shallow world with
    | ok value later =>
        have onward := (rest value).ends later
        rw [outcome] at ended
        unfold failure? after at *
        rwa [bind_of_ok outcome, bind_of_ok ended]
    | error fault later =>
        rw [outcome] at ended
        rw [bind_of_error outcome, bind_of_error ended]
        exact .inl rfl
  · have both : (shallow >>= next) world = .error .depthExhausted (after shallow world) :=
      bind_of_error (failure?_eq_some.mp failed)
    have left : after (shallow >>= next) world = after shallow world := by rw [after, both]
    refine .inr ⟨by rw [failure?, both], ?_⟩
    rw [left]
    exact printed.trans (Prints.onward deep (fun value => (rest value).prints) world)

end Deepens

section Evaluation

variable {shallow deep : Evaluator}
  (parts : ∀ expr path, Deepens (shallow expr path) (deep expr path))
include parts

theorem deepens_evalValue (expr : Value) (path : ScopePath) :
    Deepens (evalValue shallow expr path) (evalValue deep expr path) := by
  refine (parts expr path).bind fun value => ?_
  cases value with
  | void => exact .throw _
  | _ => exact .pure _

theorem deepens_evalArguments (path : ScopePath) (items done : List Value) :
    Deepens (evalArguments shallow path items done) (evalArguments deep path items done) := by
  induction items generalizing done with
  | nil => exact .pure _
  | cons item rest ih =>
      refine (parts item path).bind fun value => ?_
      cases value with
      | void => exact .throw _
      | _ => exact ih _

theorem deepens_call (arguments : Value) (callable : Callable) :
    Deepens (callable.call shallow arguments) (callable.call deep arguments) := by
  cases callable with
  | builtin tag => exact .same (.invoke tag arguments)
  | closure procedure =>
      exact (Deepens.same (.bindArguments procedure arguments)).bind fun inner => parts _ inner

/-- **One step of evaluation**, with a greater bound on the parts. -/
theorem deepens_evalShape (expr : Value) (path : ScopePath) (shape : Shape) :
    Deepens (evalShape shallow expr path shape) (evalShape deep expr path shape) := by
  cases shape with
  | constant value => exact .pure _
  | malformed fault => exact .throw _
  | symbol name => exact .same (.evalSymbol name path)
  | lambda params body => exact (Deepens.same (.addScope _)).bind fun _ => .pure _
  | define name operand =>
      refine (parts operand path).bind fun value => ?_
      cases value with
      | void => exact .throw _
      | _ => exact (Deepens.same (.define path.current name _)).bind fun _ => .pure _
  | branch condition whenTrue whenFalse =>
      refine (parts condition path).bind fun value => ?_
      cases value with
      | bool selected =>
          cases selected with
          | true => exact parts whenTrue path
          | false => exact parts whenFalse path
      | _ => exact .throw _
  | call operator operands =>
      show Deepens (evalCall shallow expr operator operands path)
        (evalCall deep expr operator operands path)
      rw [evalCall_eq, evalCall_eq]
      exact (deepens_evalValue parts operator path).bind fun value =>
        (Deepens.same (.check _)).bind fun callable => (Deepens.same (.check _)).bind fun items =>
          (deepens_evalArguments parts path items []).bind fun arguments =>
            deepens_call parts _ callable

end Evaluation

theorem prints_eval (depth : Nat) (expr : Value) (path : ScopePath) :
    Prints (eval depth expr path) := by
  have same : Deepens (eval depth expr path) (eval depth expr path) := by
    induction depth generalizing expr path with
    | zero => exact .throw _
    | succ depth ih =>
        rw [eval_succ, evalStep_eq]
        exact deepens_evalShape ih expr path expr.shape
  exact same.prints

/-- **Evaluation with a greater bound**, by induction on the smaller one. -/
theorem deepens_eval {depth deeper : Nat} (le : depth ≤ deeper) (expr : Value) (path : ScopePath) :
    Deepens (eval depth expr path) (eval deeper expr path) := by
  induction depth generalizing deeper expr path with
  | zero => exact .exhausted (prints_eval deeper expr path)
  | succ depth ih =>
      obtain ⟨deeper, rfl⟩ := Nat.exists_eq_add_of_le' le
      rw [← Nat.add_assoc, eval_succ, eval_succ, evalStep_eq, evalStep_eq]
      exact deepens_evalShape (ih (Nat.le_add_left _ _)) expr path expr.shape

/-! ### Expressions, forms and texts -/

section Bounds

variable {depth deeper : Nat} (le : depth ≤ deeper)
include le

theorem eval_eq_of_reached {expr : Value} {path : ScopePath} {world : World}
    (reached : failure? (eval depth expr path) world ≠ some .depthExhausted) :
    eval deeper expr path world = eval depth expr path world :=
  ((deepens_eval le expr path).ends world).resolve_right fun exhausted => reached exhausted.1

theorem precedes_eval (expr : Value) (path : ScopePath) (world : World) :
    (after (eval depth expr path) world).Precedes (after (eval deeper expr path) world) := by
  rcases (deepens_eval le expr path).ends world with same | ⟨-, printed⟩
  · rw [after, after, same]
    exact .refl _
  · exact printed

/-- A form that is not nested too deeply ends in the same way with a greater bound. -/
theorem together_evaluate_deeper {form : Value} {world : World} {journal : List Event}
    (reached : ∀ fault, failure? (Session.evaluate form) ⟨depth, world, journal⟩ = some fault →
      fault.kind? ≠ some .recursion) :
    Together (Session.evaluate form) (Session.evaluate form) ⟨depth, world, journal⟩
      ⟨deeper, world, journal⟩
      (fun value later other last => other = value ∧ last = { later with depth := deeper })
      (fun fault later other last => other = fault ∧ last = { later with depth := deeper }) := by
  unfold failure? at reached
  unfold Together
  rw [Session.evaluate_apply] at reached
  rw [Session.evaluate_apply, Session.evaluate_apply]
  dsimp only at *
  have inside : failure? (eval depth form .top) world ≠ some .depthExhausted := by
    intro exhausted
    rw [failure?_eq_some.mp exhausted] at reached
    exact reached _ rfl rfl
  rw [eval_eq_of_reached le inside]
  cases eval depth form .top world with
  | ok value later => exact ⟨rfl, rfl⟩
  | error fault later => exact ⟨rfl, rfl⟩

theorem precedes_evaluate (form : Value) (world : World) (journal : List Event) :
    (after (Session.evaluate form) ⟨depth, world, journal⟩).world.Precedes
      (after (Session.evaluate form) ⟨deeper, world, journal⟩).world := by
  have left : ∀ bound, (after (Session.evaluate form) ⟨bound, world, journal⟩).world
      = after (eval bound form .top) world := by
    intro bound
    rw [after, after, Session.evaluate_apply]
    dsimp only
    cases eval bound form .top world <;> rfl
  rw [left, left]
  exact precedes_eval le form .top world

/-- A text that is not nested too deeply reads in the same way with more room, and one that is has the
forms before that fault in any case. -/
theorem readSource_deeper (source : String) :
    ((readSource depth source).fault ≠ some .nestedTooDeeply →
      readSource deeper source = readSource depth source) ∧
    (readSource depth source).forms <+: (readSource deeper source).forms := by
  unfold readSource
  rcases TokenStream.readAll_widen le (.ofLexed (lex source)) with same | ⟨nested, started⟩
  · rw [same]
    exact ⟨fun _ => rfl, List.prefix_rfl⟩
  · exact ⟨fun reached => absurd nested reached, started⟩

end Bounds

/-- **The depth decides whether an answer is reached, never which one.** Let evaluations be nested at
most `depth` deep, and no less deep under a second bound.

* Unless the evaluation of an expression, under any path and in any world, runs out of depth, it ends
  under the second bound in the same way and in the same world; in any case what it printed is the
  start of what is printed under the second bound.
* The same holds of a form at the top level, which fails with a fault of recursion if it runs out.
* Unless a text is nested too deeply to be read, it is read in the same way under the second bound; in
  any case the forms that were read are the first that are read under the second bound. -/
theorem depth_decides_reach {depth deeper : Nat} (le : depth ≤ deeper) :
    (∀ expr path world,
      (failure? (eval depth expr path) world ≠ some .depthExhausted →
        eval deeper expr path world = eval depth expr path world) ∧
      (after (eval depth expr path) world).Precedes (after (eval deeper expr path) world)) ∧
    (∀ form world journal,
      ((∀ fault, failure? (Session.evaluate form) ⟨depth, world, journal⟩ = some fault →
          fault.kind? ≠ some .recursion) →
        Together (Session.evaluate form) (Session.evaluate form) ⟨depth, world, journal⟩
          ⟨deeper, world, journal⟩
          (fun value later other last => other = value ∧ last = { later with depth := deeper })
          (fun fault later other last => other = fault ∧ last = { later with depth := deeper })) ∧
      (after (Session.evaluate form) ⟨depth, world, journal⟩).world.Precedes
        (after (Session.evaluate form) ⟨deeper, world, journal⟩).world) ∧
    ∀ source,
      ((readSource depth source).fault ≠ some .nestedTooDeeply →
        readSource deeper source = readSource depth source) ∧
      (readSource depth source).forms <+: (readSource deeper source).forms := by
  refine ⟨fun expr path world => ⟨eval_eq_of_reached le, precedes_eval le expr path world⟩, ?_,
    readSource_deeper le⟩
  exact fun form world journal => ⟨together_evaluate_deeper le, precedes_evaluate le form world journal⟩

/-- The first expression prints and then runs out of depth, and the second is evaluated in full; the
first text ends where it is nested too deeply, and the second is read in full. -/
theorem depth_decides_reach_cut :
    let cut := Value.ofList [.sym "+", Value.ofList [.sym "println", .int 1],
      Value.ofList [.sym "+", .int 1, Value.ofList [.sym "+", .int 1, .int 1]]]
    let full := Value.ofList [.sym "if", .bool true, Value.ofList [.sym "println", .int 1], .nil]
    failure? (eval 3 cut .top) .initial = some .depthExhausted ∧
      (after (eval 3 cut .top) .initial).output = "1\n" ∧
      (∃ text, (after (eval 9 cut .top) .initial).output = "1\n" ++ text) ∧
      eval 9 full .top .initial = eval 3 full .top .initial ∧
      (readSource 3 "1 (((2))) 3").fault = some .nestedTooDeeply ∧
      [.int 1] <+: (readSource 9 "1 (((2))) 3").forms ∧
      readSource 9 "1 ((2)) 3" = readSource 3 "1 ((2)) 3" := by
  intro cut full
  obtain ⟨exprs, -, texts⟩ := depth_decides_reach (show 3 ≤ 9 by decide)
  have exhausted : failure? (eval 3 cut .top) .initial = some .depthExhausted := by decide +kernel
  have printed : (after (eval 3 cut .top) .initial).output = "1\n" := by decide +kernel
  have reached : failure? (eval 3 full .top) .initial ≠ some .depthExhausted := by decide +kernel
  have nested : readSource 3 "1 (((2))) 3" = ⟨[.int 1], some .nestedTooDeeply⟩ := by decide +kernel
  have shallow : (readSource 3 "1 ((2)) 3").fault ≠ some .nestedTooDeeply := by decide +kernel
  have started := (texts "1 (((2))) 3").2
  rw [nested] at started
  have onward := (exprs cut .top .initial).2
  rw [World.Precedes, printed] at onward
  refine ⟨exhausted, printed, onward, (exprs full .top .initial).1 reached, ?_, started,
    (texts _).1 shallow⟩
  rw [nested]

end SmallLisp
