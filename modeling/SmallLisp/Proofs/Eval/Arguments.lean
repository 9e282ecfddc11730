/-
**Arguments one after the other.**

A call evaluates its arguments in a loop of its own, which looks for missing values by itself. The plain
way is to map over the operands with `evalValue`, and the two are the same computation:

* `evalArguments_eq_mapM`: the loop is a map, whatever was evaluated before;
* `evalCall_eq_mapped`, `evalMapped_eq`: a call stays the same if `mapList` takes the place of its loop,
  and so does the evaluator if that is done in every call.

What either does is said by the two endings of a map (`mapList_eq_ok_iff`, `mapList_eq_error_iff`): what is
no proper list is refused with nothing done, the items are dealt with from left to right, each in the
state that the one before it left, and the first that fails is the last that is looked at.
-/

import SmallLisp.Proofs.Eval.Outcome
import SmallLisp.Proofs.Eval.Shape

namespace SmallLisp

/-! ### The two endings of a map -/

section Maps

variable {σ α β : Type} {act : α → EStateM Fault σ β} {start later : σ}

/-- Acting on items one after the other gives values, each time in the state that the time before left. -/
inductive InTurn (act : α → EStateM Fault σ β) : List α → σ → List β → σ → Prop
  | nil (state : σ) : InTurn act [] state [] state
  | cons {item : α} {items : List α} {value : β} {values : List β} {start middle later : σ}
      (first : act item start = .ok value middle) (others : InTurn act items middle values later) :
      InTurn act (item :: items) start (value :: values) later

/-- Acting on items one after the other fails: those before some item give values, that item fails, and
what stands behind it plays no part. -/
inductive FailsInTurn (act : α → EStateM Fault σ β) (start : σ) (fault : Fault) (later : σ) :
    List α → Prop
  | at {before : List α} {values : List β} {middle : σ} (earlier : InTurn act before start values middle)
      {item : α} (failed : act item middle = .error fault later) (behind : List α) :
      FailsInTurn act start fault later (before ++ item :: behind)

theorem mapM_eq_ok_iff {items : List α} {values : List β} :
    items.mapM act start = .ok values later ↔ InTurn act items start values later := by
  constructor
  · intro ended
    induction items generalizing start values with
    | nil =>
        cases ended
        exact .nil _
    | cons item items ih =>
        rw [List.mapM_cons, bind_ends_iff] at ended
        obtain ⟨value, middle, first, ended⟩ := ended
        obtain ⟨rest, last, others, ended⟩ := bind_ends_iff.mp ended
        cases ended
        exact .cons first (ih others)
  · intro each
    induction each with
    | nil state => rfl
    | cons first others ih =>
        rw [List.mapM_cons, bind_of_ok first, bind_of_ok ih]
        rfl

theorem mapM_eq_error_iff {items : List α} {fault : Fault} :
    items.mapM act start = .error fault later ↔ FailsInTurn act start fault later items := by
  constructor
  · intro failed
    induction items generalizing start with
    | nil => cases failed
    | cons item items ih =>
        rw [List.mapM_cons, bind_fails_iff] at failed
        rcases failed with failed | ⟨value, middle, first, failed⟩
        · exact .at (.nil start) failed items
        rcases bind_fails_iff.mp failed with failed | ⟨rest, last, -, failed⟩
        · obtain ⟨earlier, bad, behind⟩ := ih failed
          exact .at (.cons first earlier) bad behind
        · cases failed
  · rintro ⟨earlier, failed, behind⟩
    induction earlier with
    | nil state => rw [List.nil_append, List.mapM_cons, bind_of_error failed]
    | cons first others ih =>
        rw [List.cons_append, List.mapM_cons, bind_of_ok first, bind_of_error (ih failed)]

end Maps

namespace Value

variable {σ : Type} {act : Value → EStateM Fault σ Value} {start later : σ} {value : Value}

theorem isList_iff : value.isList ↔ ∃ items, value = ofList items := by
  constructor
  · intro proper
    obtain ⟨items, tail, rfl, notPair⟩ := exists_chain value
    obtain rfl := (isList_chain_iff notPair items).mp proper
    exact ⟨items, rfl⟩
  · rintro ⟨items, rfl⟩
    exact isList_chain items .nil

theorem mapList_ofList (act : Value → EStateM Fault σ Value) (items : List Value) :
    mapList act (ofList items) = (do return ofList (← items.mapM act)) := by
  rw [mapList, elements_ofList]

theorem elements_improper (improper : ¬ value.isList) : value.elements = .error (.notAList value) := by
  cases found : value.elements with
  | ok items => exact absurd (isList_iff.mpr ⟨items, elements_eq_ok_iff.mp found⟩) improper
  | error fault => rw [elements_eq_error found]

theorem mapList_improper (act : Value → EStateM Fault σ Value) (improper : ¬ value.isList) :
    mapList act value = throw (.notAList value) := by
  rw [mapList, elements_improper improper]

/-- **A map succeeds** on a proper list each of whose items gives a value in turn. -/
theorem mapList_eq_ok_iff {result : Value} :
    mapList act value start = .ok result later ↔
      ∃ items values, value = ofList items ∧ InTurn act items start values later ∧
        result = ofList values := by
  constructor
  · intro ended
    by_cases proper : value.isList
    · obtain ⟨items, rfl⟩ := isList_iff.mp proper
      rw [mapList_ofList, bind_ends_iff] at ended
      obtain ⟨values, last, mapped, ended⟩ := ended
      cases ended
      exact ⟨items, values, rfl, mapM_eq_ok_iff.mp mapped, rfl⟩
    · rw [mapList_improper act proper] at ended
      cases ended
  · rintro ⟨items, values, rfl, each, rfl⟩
    rw [mapList_ofList, bind_of_ok (mapM_eq_ok_iff.mpr each)]
    rfl

/-- **A map fails** on what is no proper list, with nothing done, or else at the first item that fails. -/
theorem mapList_eq_error_iff {fault : Fault} :
    mapList act value start = .error fault later ↔
      (¬ value.isList ∧ fault = .notAList value ∧ later = start) ∨
        ∃ items, value = ofList items ∧ FailsInTurn act start fault later items := by
  constructor
  · intro failed
    by_cases proper : value.isList
    · obtain ⟨items, rfl⟩ := isList_iff.mp proper
      rw [mapList_ofList, bind_fails_iff] at failed
      rcases failed with failed | ⟨values, last, -, failed⟩
      · exact .inr ⟨items, rfl, mapM_eq_error_iff.mp failed⟩
      · cases failed
    · rw [mapList_improper act proper] at failed
      cases failed
      exact .inl ⟨proper, rfl, rfl⟩
  · rintro (⟨improper, rfl, rfl⟩ | ⟨items, rfl, fails⟩)
    · rw [mapList_improper act improper]
      rfl
    · rw [mapList_ofList, bind_of_error (mapM_eq_error_iff.mpr fails)]

end Value

/-! ### The loop of a call -/

section Loop

variable (evaluate : Evaluator) (path : ScopePath)

/-- The loop asks for a value of each argument, as `evalValue` does. -/
theorem evalArguments_cons (argument : Value) (arguments done : List Value) :
    evalArguments evaluate path (argument :: arguments) done
      = evalValue evaluate argument path >>= fun value =>
          evalArguments evaluate path arguments (value :: done) := by
  rw [evalArguments, evalValue, bind_assoc]
  refine bind_congr fun value => ?_
  cases value <;> rfl

/-- **The loop over the arguments is a map.** -/
theorem evalArguments_eq_mapM (arguments done : List Value) :
    evalArguments evaluate path arguments done = (do
      return done.reverse ++ (← arguments.mapM fun argument => evalValue evaluate argument path)) := by
  induction arguments generalizing done with
  | nil =>
      rw [List.mapM_nil, pure_bind, List.append_nil]
      rfl
  | cons argument arguments ih =>
      rw [evalArguments_cons, List.mapM_cons, bind_assoc]
      refine bind_congr fun value => ?_
      rw [ih, bind_assoc]
      refine bind_congr fun values => ?_
      rw [pure_bind, List.reverse_cons, List.append_assoc]
      rfl

/-- The list of the evaluated arguments, as the loop makes it. -/
def listArguments (operands : Value) : EvalM Value := do
  let items ← EvalM.ofExcept operands.elements
  return Value.ofList (← evalArguments evaluate path items [])

/-- The list of the evaluated arguments, as a map over the operands makes it. -/
def mapArguments (operands : Value) : EvalM Value :=
  operands.mapList fun argument => evalValue evaluate argument path

theorem listArguments_eq_mapArguments (operands : Value) :
    listArguments evaluate path operands = mapArguments evaluate path operands := by
  unfold listArguments mapArguments Value.mapList
  cases operands.elements with
  | error fault => rfl
  | ok items =>
      show (do return Value.ofList (← evalArguments evaluate path items [])) = _
      rw [evalArguments_eq_mapM, bind_assoc]
      exact bind_congr fun values => pure_bind _ _

/-- A value is asked for in vain if the evaluation fails or ends without one. -/
theorem evalValue_eq_error_iff {expr : Value} {start later : World} {fault : Fault} :
    evalValue evaluate expr path start = .error fault later ↔
      evaluate expr path start = .error fault later ∨
        evaluate expr path start = .ok .void later ∧ fault = .noValue expr := by
  rw [evalValue, bind_fails_iff]
  refine or_congr_right ⟨?_, ?_⟩
  · rintro ⟨value, middle, ended, failed⟩
    cases value with
    | void =>
        cases failed
        exact ⟨ended, rfl⟩
    | _ => cases failed
  · rintro ⟨ended, rfl⟩
    exact ⟨.void, later, ended, rfl⟩

/-- The first argument that fails is the last that is evaluated. -/
theorem mapArguments_of_failed {before values : List Value} {argument : Value}
    {start middle later : World} {fault : Fault}
    (earlier : InTurn (fun argument => evalValue evaluate argument path) before start values middle)
    (failed : evaluate argument path middle = .error fault later) (behind : List Value) :
    mapArguments evaluate path (Value.ofList (before ++ argument :: behind)) start
      = .error fault later := by
  have refused := (evalValue_eq_error_iff evaluate path).mpr (.inl failed)
  exact Value.mapList_eq_error_iff.mpr (.inr ⟨_, rfl, .at earlier refused behind⟩)

end Loop

/-! ### Calls that map over their operands -/

/-- A call whose arguments are evaluated by a map over its operands. -/
def evalCallMapped (evaluate : Evaluator) (form operator operands : Value) (path : ScopePath) :
    EvalM Value := do
  let value ← evalValue evaluate operator path
  let callable ← EvalM.ofExcept (Callable.ofValue value form)
  let arguments ← mapArguments evaluate path operands
  callable.call evaluate arguments

/-- One step of evaluation, with such calls. -/
def evalStepMapped (evaluate : Evaluator) (expr : Value) (path : ScopePath) : EvalM Value :=
  match expr with
  | .pair operator operands =>
    match SpecialForm.ofOperator? operator with
    | some _ => evalStep evaluate expr path
    | none => evalCallMapped evaluate expr operator operands path
  | _ => evalStep evaluate expr path

/-- The evaluator with such calls at every depth. -/
def evalMapped : Nat → Evaluator
  | 0 => fun _ _ => throw .depthExhausted
  | depth + 1 => evalStepMapped (evalMapped depth)

/-- **A call stays the same** if a map takes the place of its loop. -/
theorem evalCall_eq_mapped (evaluate : Evaluator) (form operator operands : Value)
    (path : ScopePath) :
    evalCall evaluate form operator operands path
      = evalCallMapped evaluate form operator operands path := by
  rw [evalCall_eq, evalCallMapped]
  refine bind_congr fun value => bind_congr fun callable => ?_
  rw [← listArguments_eq_mapArguments, listArguments, bind_assoc]
  refine bind_congr fun items => ?_
  rw [bind_assoc]
  exact bind_congr fun arguments => (pure_bind _ _).symm

theorem evalStep_eq_mapped (evaluate : Evaluator) (expr : Value) (path : ScopePath) :
    evalStep evaluate expr path = evalStepMapped evaluate expr path := by
  cases expr with
  | pair operator operands =>
      dsimp only [evalStep, evalStepMapped]
      cases SpecialForm.ofOperator? operator with
      | some form => rfl
      | none => exact evalCall_eq_mapped evaluate _ operator operands path
  | _ => rfl

theorem evalMapped_eq (depth : Nat) : evalMapped depth = eval depth := by
  induction depth with
  | zero => rfl
  | succ depth ih =>
      funext expr path
      rw [evalMapped, ih, eval_succ, evalStep_eq_mapped]

/-- **The loop over the arguments does what a map over the operands does.** For every evaluator of the
parts, the two are one computation: in every world the same list or the same fault, and the same world
afterwards. So calls stay the same, and the whole evaluator. Both end with a list exactly if the operands
are a proper list whose members give values in turn, each in the world that the one before it left; and
they fail exactly if the operands are no proper list, before anything is evaluated, or at the first
argument that fails or produces no value, whatever stands behind it. -/
theorem arguments_by_mapping (evaluate : Evaluator) (operands : Value) (path : ScopePath) :
    listArguments evaluate path operands = mapArguments evaluate path operands ∧
    (∀ (depth : Nat) (operator : Value), (∀ form : SpecialForm, operator ≠ .sym form.name) →
      eval (depth + 1) (.pair operator operands) path
        = evalCallMapped (eval depth) (.pair operator operands) operator operands path) ∧
    (∀ depth, eval depth = evalMapped depth) ∧
    ∀ start later : World,
      (∀ result, mapArguments evaluate path operands start = .ok result later ↔
        ∃ items values, operands = Value.ofList items ∧
          InTurn (fun argument => evalValue evaluate argument path) items start values later ∧
          result = Value.ofList values) ∧
      ∀ fault, mapArguments evaluate path operands start = .error fault later ↔
        (¬ operands.isList ∧ fault = .notAList operands ∧ later = start) ∨
        ∃ before argument behind values middle, operands = Value.ofList (before ++ argument :: behind) ∧
          InTurn (fun argument => evalValue evaluate argument path) before start values middle ∧
          (evaluate argument path middle = .error fault later ∨
            evaluate argument path middle = .ok .void later ∧ fault = .noValue argument) := by
  refine ⟨listArguments_eq_mapArguments evaluate path operands, ?_, ?_, ?_⟩
  · intro depth operator ordinary
    rw [eval_succ, evalStep_eq_mapped, evalStepMapped, ofOperator?_eq_none_iff.mpr ordinary]
  · exact fun depth => (evalMapped_eq depth).symm
  · intro start later
    refine ⟨fun result => Value.mapList_eq_ok_iff, fun fault => ?_⟩
    rw [mapArguments, Value.mapList_eq_error_iff]
    refine or_congr_right ⟨?_, ?_⟩
    · rintro ⟨items, rfl, earlier, failed, behind⟩
      exact ⟨_, _, behind, _, _, rfl, earlier, (evalValue_eq_error_iff evaluate path).mp failed⟩
    · rintro ⟨before, argument, behind, values, middle, rfl, earlier, failed⟩
      exact ⟨_, rfl, .at earlier ((evalValue_eq_error_iff evaluate path).mpr failed) behind⟩

/-- The second argument defines `x` and produces no value, so the third prints nothing. -/
theorem arguments_by_mapping_noValue :
    let definition := Value.ofList [.sym "define", .sym "x", .int 2]
    let operands := Value.ofList
      [.ofList [.sym "println", .int 1], definition, .ofList [.sym "println", .int 3]]
    let later : World := ⟨⟨#[⟨[("x", .int 2)]⟩], by decide⟩, "1\n"⟩
    mapArguments (eval 2) .top operands .initial = .error (.noValue definition) later ∧
      eval 3 (.pair (.sym "+") operands) .top .initial = .error (.noValue definition) later := by
  intro definition operands later
  obtain ⟨-, call, -, ends⟩ := arguments_by_mapping (eval 2) operands .top
  have failed : mapArguments (eval 2) .top operands .initial = .error (.noValue definition) later := by
    refine ((ends .initial later).2 _).mpr
      (.inr ⟨[_], definition, [_], [.nil], ⟨.initial, "1\n"⟩, rfl, ?_, ?_⟩)
    · exact .cons rfl (.nil _)
    · exact .inr ⟨rfl, rfl⟩
  have function : evalValue (eval 2) (.sym "+") .top .initial = .ok (.builtin .add) .initial := rfl
  refine ⟨failed, ?_⟩
  rw [call 2 (.sym "+") (ofOperator?_eq_none_iff.mp rfl), evalCallMapped, bind_of_ok function]
  exact (bind_of_ok (EvalM.ofExcept_ok (Callable.builtin .add) .initial)).trans (bind_of_error failed)

end SmallLisp
