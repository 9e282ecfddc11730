/-
**Evaluation up to the names of scopes.**

Neither the numbers that scopes happen to get nor the scopes that cannot be reached make any
difference to an evaluation. Two evaluations of the same expression, up to a renaming of scopes under
which their stores correspond, run side by side: they print the same text and end alike, and the
stores correspond again, under a renaming that also covers the scopes created on the way.

* `Simulates`: two computations side by side, with one rule for each operation on the world;
* `Evaluator.Uniform.evalStep`: one step of evaluation keeps the correspondence if the evaluation of
  the parts does, by the seven shapes of expressions;
* `uniform_eval`: so does evaluation, to whatever depth.
-/

import Mathlib.Logic.Equiv.Basic
import SmallLisp.Proofs.Eval.Rename
import SmallLisp.Proofs.Eval.Together
import SmallLisp.Proofs.Scope.Rename

namespace SmallLisp

/-- Faults that are reported alike: of the same kind and with the same wording. -/
structure Fault.Alike (fault other : Fault) : Prop where
  kind : other.kind? = fault.kind?
  message : other.message = fault.message

theorem Fault.alike_rename (map : Int → Int) (fault : Fault) : fault.Alike (fault.rename map) :=
  ⟨fault.kind?_rename, fault.message_rename⟩

namespace Renaming

variable {bijection larger : Renaming}

/-- From the worlds `left` and `right`, which correspond under the first renaming, to `later` and
`last`, which correspond under the second: the same text has been printed. -/
structure Leads (bijection larger : Renaming) (left right later last : World) : Prop where
  grows : bijection.Grows larger
  stores : larger.Stores later.store last.store
  printed : ∃ text, later.output = left.output ++ text ∧ last.output = right.output ++ text

theorem Leads.refl {left right : World} (stores : bijection.Stores left.store right.store) :
    bijection.Leads bijection left right left right :=
  ⟨.refl bijection, stores, "", (String.append_empty).symm, (String.append_empty).symm⟩

theorem Leads.trans {largest : Renaming} {left right middle between later last : World}
    (first : bijection.Leads larger left right middle between)
    (second : larger.Leads largest middle between later last) :
    bijection.Leads largest left right later last := by
  obtain ⟨text, printed, otherPrinted⟩ := first.printed
  obtain ⟨more, added, otherAdded⟩ := second.printed
  refine ⟨first.grows.trans second.grows, second.stores, text ++ more, ?_, ?_⟩
  · rw [added, printed, String.append_assoc]
  · rw [otherAdded, otherPrinted, String.append_assoc]

/-- A value and the same value renamed. -/
def Values (bijection : Renaming) (value other : Value) : Prop :=
  value.Within bijection.source ∧ other = value.rename bijection.map

/-- Values and the same values renamed. -/
def EachValue (bijection : Renaming) (values others : List Value) : Prop :=
  (∀ value ∈ values, value.Within bijection.source) ∧
    others = values.map (Value.rename bijection.map)

theorem EachValue.mono {values others : List Value} (each : bijection.EachValue values others)
    (grows : bijection.Grows larger) : larger.EachValue values others := by
  obtain ⟨within, rfl⟩ := each
  refine ⟨fun value member => (within value member).mono grows.source, ?_⟩
  exact List.map_congr_left fun value member => (grows.rename_value (within value member)).symm

/-- Something to call and the same renamed. -/
def Callables (bijection : Renaming) (callable other : Callable) : Prop :=
  callable.toValue.Within bijection.source ∧ other = callable.rename bijection.map

theorem Callables.mono {callable other : Callable} (related : bijection.Callables callable other)
    (grows : bijection.Grows larger) : larger.Callables callable other := by
  obtain ⟨within, rfl⟩ := related
  refine ⟨within.mono grows.source, ?_⟩
  cases callable with
  | builtin tag => rfl
  | closure procedure =>
      rw [Callable.rename, Callable.rename, Closure.rename, Closure.rename,
        grows.rename_value within.1, grows.rename_path within.2]

/-- A path and the same path renamed. -/
def Paths (bijection : Renaming) (path other : ScopePath) : Prop :=
  path.Within bijection.source ∧ other = path.rename bijection.map

/-- A scope that came in with the larger renaming goes on top of a path that was there before. -/
theorem Grows.paths_push (grows : bijection.Grows larger) {path : ScopePath}
    (within : path.Within bijection.source) {id : Int} (member : id ∈ larger.source) :
    larger.Paths (path.push id) ((path.rename bijection.map).push (larger.map id)) := by
  refine ⟨ScopePath.within_push.mpr ⟨within.mono grows.source, member⟩, ?_⟩
  rw [ScopePath.rename_push, grows.rename_path within]

end Renaming

open Renaming

variable {α β γ δ : Type} {bijection larger : Renaming} {left right : World}

/-- Two computations side by side, in worlds that correspond: both end with values that are `good`
for each other, or both with faults that are reported alike; and in worlds that correspond again. -/
def Simulates (bijection : Renaming) (first : EvalM α) (second : EvalM β) (left right : World)
    (good : Renaming → α → β → Prop) : Prop :=
  Together first second left right
    (fun value later other last =>
      ∃ larger, bijection.Leads larger left right later last ∧ good larger value other)
    (fun fault later other last =>
      ∃ larger : Renaming, bijection.Leads larger left right later last ∧ fault.Alike other)

namespace Simulates

variable {good : Renaming → α → β → Prop} {last : Renaming → γ → δ → Prop}

theorem pure (stores : bijection.Stores left.store right.store) {value : α} {other : β}
    (holds : good bijection value other) :
    Simulates bijection (Pure.pure value) (Pure.pure other) left right good :=
  together_pure.mpr ⟨bijection, .refl stores, holds⟩

theorem throw (stores : bijection.Stores left.store right.store) {fault other : Fault}
    (alike : fault.Alike other) :
    Simulates bijection (MonadExcept.throw fault) (MonadExcept.throw other) left right good :=
  together_throw.mpr ⟨bijection, .refl stores, alike⟩

/-- **One pair of computations after the other**, under a renaming that may have grown. -/
theorem bind {first : EvalM α} {second : EvalM β} {next : α → EvalM γ} {otherNext : β → EvalM δ}
    (holds : Simulates bijection first second left right good)
    (rest : ∀ larger value other middle between, bijection.Grows larger →
      larger.Stores middle.store between.store → good larger value other →
      Simulates larger (next value) (otherNext other) middle between last) :
    Simulates bijection (first >>= next) (second >>= otherNext) left right last := by
  refine Together.bind holds ?_
  rintro value middle other between ⟨larger, leads, related⟩
  -- what follows starts from the renaming and the worlds that the first pair ended with
  refine Together.mono (rest larger value other middle between leads.grows leads.stores related) ?_ ?_
  · rintro result later otherResult final ⟨largest, onward, holds⟩
    exact ⟨largest, leads.trans onward, holds⟩
  · rintro fault later otherFault final ⟨largest, onward, alike⟩
    exact ⟨largest, leads.trans onward, alike⟩

/-- A check of renamed values ends as the check of the values does. -/
theorem check {good : Renaming → α → α → Prop} (stores : bijection.Stores left.store right.store)
    {onResult : α → α} {check other : Except Fault α}
    (natural : other = renameCheck bijection.map onResult check)
    (holds : ∀ result, check = .ok result → good bijection result (onResult result)) :
    Simulates bijection (EvalM.ofExcept check) (EvalM.ofExcept other) left right good := by
  subst natural
  cases check with
  | ok result => exact pure stores (holds result rfl)
  | error fault => exact throw stores (fault.alike_rename _)

/-! ### The operations on the world -/

theorem addScope (stores : bijection.Stores left.store right.store) {scope other : Scope}
    (binds : bijection.Binds scope other) :
    Simulates bijection (EvalM.addScope scope) (EvalM.addScope other) left right
      (fun larger id otherId => id ∈ larger.source ∧ otherId = larger.map id) := by
  obtain ⟨larger, grows, grown, member, mapped⟩ := stores.add binds
  refine ⟨larger, ⟨grows, grown, "", (String.append_empty).symm, (String.append_empty).symm⟩, ?_⟩
  exact ⟨member, mapped.symm⟩

theorem resolve (stores : bijection.Stores left.store right.store) {path : ScopePath}
    (within : path.Within bijection.source) (name : String) :
    Simulates bijection (EvalM.resolve path name)
      (EvalM.resolve (path.rename bijection.map) name) left right
      (fun larger found other => other = found.map (Value.rename larger.map) ∧
        ∀ value ∈ found, value.Within larger.source) := by
  obtain ⟨found, resolved, otherResolved, known⟩ := stores.resolve within name
  unfold Simulates Together
  rw [EvalM.resolve_apply, EvalM.resolve_apply, resolved, otherResolved]
  exact ⟨bijection, .refl stores, rfl, known⟩

theorem define (stores : bijection.Stores left.store right.store) {id : Int} {value : Value}
    (member : id ∈ bijection.source) (within : value.Within bijection.source) (name : String) :
    Simulates bijection (EvalM.define id name value)
      (EvalM.define (bijection.map id) name (value.rename bijection.map)) left right
      (fun _ _ _ => True) := by
  have known := stores.left_contains id member
  have knownOther := stores.right_contains _ (bijection.bijOn.mapsTo member)
  unfold Simulates Together
  rw [EvalM.define_apply, EvalM.define_apply, ScopeStore.define, ScopeStore.define, if_pos known,
    if_pos knownOther]
  refine ⟨bijection, ⟨.refl bijection, stores.bindAt member within name, "", ?_, ?_⟩, trivial⟩
  · exact (String.append_empty).symm
  · exact (String.append_empty).symm

theorem invoke (stores : bijection.Stores left.store right.store) (tag : Builtin)
    {values others : List Value} (each : bijection.EachValue values others) :
    Simulates bijection (tag.invoke (Value.ofList values)) (tag.invoke (Value.ofList others))
      left right Renaming.Values := by
  obtain ⟨-, rfl⟩ := each
  rw [Builtin.invoke, Builtin.invoke, tag.apply_rename values]
  cases applied : tag.apply (Value.ofList values) with
  | error fault => exact throw stores (fault.alike_rename _)
  | ok outcome =>
      obtain ⟨result, text⟩ := outcome
      have within : result.Within bijection.source := by
        have gives := Builtin.apply_eq_ok_iff.mp applied
        cases gives <;> trivial
      exact ⟨bijection, ⟨.refl bijection, stores, text, rfl, rfl⟩, within, rfl⟩

end Simulates

/-! ### Evaluation -/

/-- An evaluator does the same for an expression and a path when they are renamed. -/
def Evaluator.Uniform (evaluate : Evaluator) : Prop :=
  ∀ (bijection : Renaming) (expr : Value) (path : ScopePath) (left right : World),
    expr.Within bijection.source → path.Within bijection.source →
    bijection.Stores left.store right.store →
    Simulates bijection (evaluate expr path)
      (evaluate (expr.rename bijection.map) (path.rename bijection.map)) left right Renaming.Values

section Parts

variable {evaluate : Evaluator} {path : ScopePath}

theorem simulates_evalSymbol (stores : bijection.Stores left.store right.store)
    (onPath : path.Within bijection.source) (name : String) :
    Simulates bijection (evalSymbol name path)
      (evalSymbol name (path.rename bijection.map)) left right Renaming.Values := by
  unfold evalSymbol
  cases Builtin.ofName? name with
  | some tag => exact .pure stores ⟨trivial, rfl⟩
  | none =>
      refine (Simulates.resolve stores onPath name).bind ?_
      rintro larger found _ middle between grows grown ⟨rfl, within⟩
      cases found with
      | none => exact .throw grown ⟨rfl, rfl⟩
      | some value =>
          have known := within value rfl
          cases value with
          | void => exact .throw grown ⟨rfl, rfl⟩
          | _ => exact .pure grown ⟨known, rfl⟩

theorem simulates_bindArguments (stores : bijection.Stores left.store right.store)
    {procedure : Closure} (within : procedure.path.Within bijection.source)
    {values others : List Value} (each : bijection.EachValue values others) :
    Simulates bijection (procedure.bindArguments (Value.ofList values))
      ((procedure.rename bijection.map).bindArguments (Value.ofList others)) left right
      Renaming.Paths := by
  obtain ⟨known, rfl⟩ := each
  rw [Closure.bindArguments, Closure.bindArguments, Closure.argumentScope_ofList,
    Closure.argumentScope_ofList, List.length_map, Closure.arity_rename]
  by_cases counted : values.length = procedure.arity
  · rw [if_pos counted, if_pos counted]
    change Simulates bijection
      (EvalM.addScope _ >>= fun id => pure (procedure.path.push id))
      (EvalM.addScope _ >>= fun id => pure ((procedure.path.rename bijection.map).push id)) _ _ _
    refine (Simulates.addScope stores (binds_ofBindings procedure.params known)).bind ?_
    rintro larger id _ middle between grows grown ⟨member, rfl⟩
    exact .pure grown (grows.paths_push within member)
  · rw [if_neg counted, if_neg counted]
    exact .throw stores ⟨rfl, rfl⟩

variable (uniform : evaluate.Uniform) (onPath : path.Within bijection.source)
include uniform onPath

/-- A part of an expression, after the renaming has grown. -/
theorem simulates_part (grows : bijection.Grows larger)
    (stores : larger.Stores left.store right.store) {expr : Value}
    (within : expr.Within bijection.source) :
    Simulates larger (evaluate expr path)
      (evaluate (expr.rename bijection.map) (path.rename bijection.map)) left right
      Renaming.Values := by
  rw [← grows.rename_value within, ← grows.rename_path onPath]
  exact uniform larger expr path left right (within.mono grows.source) (onPath.mono grows.source)
    stores

theorem simulates_evalValue (stores : bijection.Stores left.store right.store) {expr : Value}
    (within : expr.Within bijection.source) :
    Simulates bijection (evalValue evaluate expr path)
      (evalValue evaluate (expr.rename bijection.map) (path.rename bijection.map)) left right
      Renaming.Values := by
  refine (simulates_part uniform onPath (.refl bijection) stores within).bind ?_
  rintro larger value _ middle between grows grown ⟨known, rfl⟩
  cases value with
  | void => exact .throw grown (Fault.alike_rename bijection.map (.noValue expr))
  | _ => exact .pure grown ⟨known, rfl⟩

/-- **Arguments from left to right**: each is evaluated under the renaming that the one before has
left, while the expressions and the path are those of the first renaming. -/
theorem simulates_evalArguments (exprs : List Value)
    (within : ∀ expr ∈ exprs, expr.Within bijection.source) {done others : List Value}
    (grows : bijection.Grows larger) (stores : larger.Stores left.store right.store)
    (each : larger.EachValue done others) :
    Simulates larger (evalArguments evaluate path exprs done)
      (evalArguments evaluate (path.rename bijection.map)
        (exprs.map (Value.rename bijection.map)) others) left right Renaming.EachValue := by
  induction exprs generalizing larger left right done others with
  | nil =>
      obtain ⟨known, rfl⟩ := each
      refine .pure stores ⟨fun value member => known value (List.mem_reverse.mp member), ?_⟩
      rw [List.map_reverse]
  | cons expr exprs ih =>
      obtain ⟨first, rest⟩ := List.forall_mem_cons.mp within
      refine (simulates_part uniform onPath grows stores first).bind ?_
      rintro largest value _ middle between more grown ⟨known, rfl⟩
      have onward : Simulates largest (evalArguments evaluate path exprs (value :: done))
          (evalArguments evaluate (path.rename bijection.map)
            (exprs.map (Value.rename bijection.map)) (value.rename largest.map :: others))
          middle between Renaming.EachValue := by
        obtain ⟨olds, rfl⟩ := each.mono more
        exact ih rest (grows.trans more) grown ⟨List.forall_mem_cons.mpr ⟨known, olds⟩, rfl⟩
      cases value with
      | void => exact .throw grown (Fault.alike_rename bijection.map (.noValue expr))
      | _ => exact onward

omit onPath

/-- The body of a closure is evaluated under the path that it captured and a scope that corresponds to
the other closure's new scope. -/
theorem simulates_call (stores : bijection.Stores left.store right.store) {callable other : Callable}
    (related : bijection.Callables callable other) {values others : List Value}
    (each : bijection.EachValue values others) :
    Simulates bijection (callable.call evaluate (Value.ofList values))
      (other.call evaluate (Value.ofList others)) left right Renaming.Values := by
  obtain ⟨within, rfl⟩ := related
  cases callable with
  | builtin tag => exact .invoke stores tag each
  | closure procedure =>
      refine (simulates_bindArguments stores within.2 each).bind ?_
      rintro larger inner _ middle between grows grown ⟨onPath, rfl⟩
      have same : (procedure.rename bijection.map).body = procedure.body.rename larger.map :=
        (grows.rename_value within.1).symm
      rw [same]
      exact uniform larger procedure.body inner middle between (within.1.mono grows.source) onPath
        grown

include onPath

theorem simulates_evalCall (stores : bijection.Stores left.store right.store)
    {form operator operands : Value} (whole : form.Within bijection.source)
    (function : operator.Within bijection.source) (arguments : operands.Within bijection.source) :
    Simulates bijection (evalCall evaluate form operator operands path)
      (evalCall evaluate (form.rename bijection.map) (operator.rename bijection.map)
        (operands.rename bijection.map) (path.rename bijection.map)) left right
      Renaming.Values := by
  rw [evalCall_eq, evalCall_eq]
  -- The renaming may grow at the operator and at every argument. The parts of the form were renamed
  -- before all that, but the larger renamings agree with the first one on them.
  refine (simulates_evalValue uniform onPath stores function).bind ?_
  rintro first value _ middle between grows grown ⟨known, rfl⟩
  have called : Simulates first (EvalM.ofExcept (Callable.ofValue value form))
      (EvalM.ofExcept (Callable.ofValue (value.rename first.map) (form.rename bijection.map)))
      middle between Renaming.Callables := by
    rw [← grows.rename_value whole]
    refine .check grown (Callable.ofValue_rename value form) fun callable found => ⟨?_, rfl⟩
    rw [← Callable.ofValue_eq_ok_iff.mp found]
    exact known
  refine called.bind ?_
  rintro second callable function middle between more grown related
  have toSecond := grows.trans more
  have listed : Simulates second (EvalM.ofExcept operands.elements)
      (EvalM.ofExcept (operands.rename bijection.map).elements) middle between
      Renaming.EachValue := by
    rw [← toSecond.rename_value arguments]
    refine .check grown operands.elements_rename fun exprs found => ⟨?_, rfl⟩
    rw [Value.elements_eq_ok_iff.mp found] at arguments
    exact Value.within_ofList.mp (arguments.mono toSecond.source)
  refine listed.bind ?_
  rintro third exprs _ middle between again grown ⟨within, rfl⟩
  have toThird := toSecond.trans again
  have evaluated := simulates_evalArguments uniform (onPath.mono toThird.source) exprs within
    (.refl third) grown ⟨fun _ member => absurd member List.not_mem_nil, rfl⟩
  rw [toThird.rename_path onPath] at evaluated
  refine evaluated.bind ?_
  intro last values others middle between final grown each
  exact simulates_call uniform grown ((related.mono again).mono final) each

end Parts

/-- **One step of evaluation keeps the correspondence**, if the evaluation of the parts does. -/
theorem Evaluator.Uniform.evalStep {evaluate : Evaluator} (uniform : evaluate.Uniform) :
    Evaluator.Uniform (evalStep evaluate) := by
  intro bijection expr path left right whole onPath stores
  rw [evalStep_eq, evalStep_eq, Value.shape_rename]
  have within := whole.shape
  generalize expr.shape = shape at within
  cases shape with
  | constant value => exact .pure stores ⟨within, rfl⟩
  | malformed fault => exact .throw stores (fault.alike_rename bijection.map)
  | symbol name => exact simulates_evalSymbol stores onPath name
  | define name operand =>
      refine (simulates_part uniform onPath (.refl bijection) stores within).bind ?_
      rintro larger value _ middle between grows grown ⟨known, rfl⟩
      have defined : Simulates larger
          (do EvalM.define path.current name value; return Value.void)
          (do
            EvalM.define (path.rename bijection.map).current name (value.rename larger.map)
            return Value.void)
          middle between Renaming.Values := by
        rw [← grows.rename_path onPath, ScopePath.current_rename larger.map_top]
        have bound := Simulates.define grown (onPath.mono grows.source).current known name
        exact bound.bind fun largest _ _ _ _ _ stored _ => .pure stored ⟨trivial, rfl⟩
      cases value with
      | void => exact .throw grown (Fault.alike_rename bijection.map (.defineNoValue name operand))
      | _ => exact defined
  | lambda params body =>
      refine (Simulates.addScope stores bijection.binds_empty).bind ?_
      rintro larger id _ middle between grows grown ⟨member, rfl⟩
      obtain ⟨captured, same⟩ := grows.paths_push onPath member
      refine .pure grown ⟨⟨within.mono grows.source, captured⟩, ?_⟩
      rw [same, Value.rename, grows.rename_value within]
  | branch condition whenTrue whenFalse =>
      refine (simulates_part uniform onPath (.refl bijection) stores within.1).bind ?_
      rintro larger value _ middle between grows grown ⟨known, rfl⟩
      cases value with
      | bool flag =>
          cases flag with
          | true => exact simulates_part uniform onPath grows grown within.2.1
          | false => exact simulates_part uniform onPath grows grown within.2.2
      | _ => exact .throw grown (Fault.alike_rename larger.map (.ifCondition _))
  | call operator operands =>
      exact simulates_evalCall uniform onPath stores whole within.1 within.2

/-- **Evaluation keeps the correspondence**, to whatever depth. -/
theorem uniform_eval (depth : Nat) : (eval depth).Uniform := by
  induction depth with
  | zero => exact fun _ _ _ _ _ _ _ stores => .throw stores ⟨rfl, rfl⟩
  | succ depth ih => exact ih.evalStep

/-- **Scope names and garbage never matter.** Let two stores correspond under a bijection between some
scopes of the one and some of the other that keeps the top level, let the bijection cover all scopes
on a path and all that closures in an expression captured, and evaluate the expression under the path
in the first store, and both renamed in the second. Then, to whatever depth, both evaluations end
with values that correspond, and hence have the same text, or both without a value, or both fail with
a fault of the same kind and the same message. They print the same text, and the stores that they
leave correspond under a bijection that extends the first. -/
theorem evaluation_up_to_scope_names (bijection : Renaming) (depth : Nat) (expr : Value)
    (path : ScopePath) (left right : World) (inExpr : expr.Within bijection.source)
    (onPath : path.Within bijection.source)
    (stores : bijection.Stores left.store right.store) :
    Together (eval depth expr path)
      (eval depth (expr.rename bijection.map) (path.rename bijection.map)) left right
      (fun value later other last => ∃ larger : Renaming,
        bijection.Leads larger left right later last ∧ larger.Values value other ∧
        other.render = value.render ∧ (other = .void ↔ value = .void))
      (fun fault later other last => ∃ larger : Renaming,
        bijection.Leads larger left right later last ∧
        other.kind? = fault.kind? ∧ other.message = fault.message) := by
  refine Together.mono (uniform_eval depth bijection expr path left right inExpr onPath stores) ?_ ?_
  · rintro value later _ last ⟨larger, leads, known, rfl⟩
    exact ⟨larger, leads, ⟨known, rfl⟩, value.render_rename, Value.rename_eq_void⟩
  · rintro fault later other last ⟨larger, leads, alike⟩
    exact ⟨larger, leads, alike.kind, alike.message⟩

/-- The renaming under which the scopes `1` and `2` correspond, and no others but the top level. -/
def crossed : Renaming where
  map := Equiv.swap 1 2
  source := {0, 1}
  target := Equiv.swap 1 2 '' {0, 1}
  bijOn := (Equiv.swap 1 2).injective.injOn.bijOn_image
  top_mem := Set.mem_insert _ _
  map_top := rfl

/-- A store with a function at the top level that captured the scope `captured`. -/
def capturing (captured first second : Int) : ScopeStore :=
  ⟨#[⟨[("f", .lambda ["x"] (Value.ofList [.sym "+", .sym "x", .sym "n"]) ⟨[captured]⟩)]⟩,
    ⟨[("n", .int first)]⟩, ⟨[("n", .int second)]⟩], Nat.succ_pos _⟩

theorem stores_capturing : crossed.Stores (capturing 1 5 7) (capturing 2 9 5) := by
  refine ⟨?_, ?_, ?_⟩
  · rintro id (rfl | rfl) <;> rfl
  · rintro _ ⟨id, rfl | rfl, rfl⟩ <;> rfl
  · rintro id (rfl | rfl) scope other found foundOther <;> cases found <;> cases foundOther
    · have within : (Value.lambda ["x"] (Value.ofList [.sym "+", .sym "x", .sym "n"]) ⟨[1]⟩).Within
          crossed.source := by
        simp [Value.ofList, Value.Within, ScopePath.Within, ScopePath.ids, ScopePath.topId, crossed]
      exact crossed.binds_empty.define within "f"
    · have within : (Value.int 5).Within crossed.source := trivial
      exact crossed.binds_empty.define within "n"

/-- The function is applied to itself in the one store and in the other, where its scope has another
number and the scope of that number binds the same name to something else. -/
theorem evaluation_up_to_scope_names_crossed :
    (Value.ofList [.sym "f", .sym "f"]).Within crossed.source ∧
      ScopePath.top.Within crossed.source ∧ crossed.Stores (capturing 1 5 7) (capturing 2 9 5) ∧
      ∃ fault later other last,
        eval 9 (Value.ofList [.sym "f", .sym "f"]) .top ⟨capturing 1 5 7, ""⟩
          = .error fault later ∧
        eval 9 (Value.ofList [.sym "f", .sym "f"]) .top ⟨capturing 2 9 5, ""⟩
          = .error other last ∧
        (∃ larger, crossed.Leads larger ⟨capturing 1 5 7, ""⟩ ⟨capturing 2 9 5, ""⟩ later last) ∧
        other.message = "incorrect types in arguments to +: (#<lambda (x)> 5)" ∧
        fault.message = other.message := by
  have inExpr : (Value.ofList [.sym "f", .sym "f"]).Within crossed.source := by
    simp [Value.ofList, Value.Within]
  have onPath : ScopePath.top.Within crossed.source := by
    simp [ScopePath.Within, ScopePath.topId, crossed]
  have failed : failure? (eval 9 (Value.ofList [.sym "f", .sym "f"]) .top) ⟨capturing 2 9 5, ""⟩
      = some (.operandTypes .add (Value.ofList [.lambda ["x"]
          (Value.ofList [.sym "+", .sym "x", .sym "n"]) ⟨[2]⟩, .int 5])) := by
    decide +kernel
  have stopped := failure?_eq_some.mp failed
  obtain ⟨fault, later, ended, larger, leads, -, message⟩ := Together.of_error
    (evaluation_up_to_scope_names crossed 9 _ .top ⟨capturing 1 5 7, ""⟩ ⟨capturing 2 9 5, ""⟩
      inExpr onPath stores_capturing) stopped
  refine ⟨inExpr, onPath, stores_capturing, fault, later, _, _, ended, stopped, ⟨larger, leads⟩, ?_,
    message.symm⟩
  decide +kernel

end SmallLisp
