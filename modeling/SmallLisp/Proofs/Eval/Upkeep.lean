/-
**What evaluation keeps.**

An invariant of evaluation says which expressions are in order, when a world and its record are, and when
values and paths are in order there. Evaluation touches the world and the record only in seven ways: an
evaluation is begun, a value is returned, a symbol is looked up, a name is defined, a closure is created, a
built-in is applied, and the scope of a call is created. `Upkeep.Lawful` asks that each of them keeps the
invariant; then so does evaluation as a whole (`Upkeep.Lawful.eval`), by induction on the depth, one case for
each shape.
-/

import SmallLisp.Proofs.Eval.Trace

namespace SmallLisp

/-- The faults that are neither about scopes nor about marks that are no values nor about results of
too many digits. -/
def Fault.isOrdinary : Fault → Bool
  | .noScope _ | .pathNotFromTop _ | .notEvaluable _ | .resultTooLong => false
  | _ => true

/-- A form that is refused for its shape is refused with an ordinary fault. -/
theorem Fault.isOrdinary_of_shape {fault : Fault} {kind : Kind} (known : fault.kind? = some kind)
    (covered : .shape ∈ kind.ancestry) : fault.isOrdinary := by
  cases fault with
  | noScope | pathNotFromTop | notEvaluable =>
      cases known
      exact absurd covered (by decide)
  | resultTooLong => cases known
  | _ => rfl

namespace Trace

/-! ### Computations with a record -/

section Rules

variable {σ α β : Type}

theorem ensures_observe {computation : EStateM Fault σ α} {start : Traced σ}
    {onValue : α → Traced σ → Prop} {onFault : Fault → Traced σ → Prop} :
    Ensures (observe computation) start onValue onFault ↔
      Ensures computation start.state (fun value state => onValue value ⟨state, start.entries⟩)
        (fun fault state => onFault fault ⟨state, start.entries⟩) := by
  unfold Ensures observe
  cases computation start.state <;> rfl

theorem ensures_note {entry : σ → Entry} {start : Traced σ} {onValue : Unit → Traced σ → Prop}
    {onFault : Fault → Traced σ → Prop} :
    Ensures (note entry) start onValue onFault ↔
      onValue () ⟨start.state, entry start.state :: start.entries⟩ := Iff.rfl

theorem observe_bind (first : EStateM Fault σ α) (next : α → EStateM Fault σ β) :
    observe (first >>= next) = observe first >>= fun value => observe (next value) := by
  funext start
  show observe (EStateM.bind first next) start
    = EStateM.bind (observe first) (fun value => observe (next value)) start
  unfold EStateM.bind observe
  dsimp only
  cases first start.state <;> rfl

end Rules

/-- Binds a name in the innermost scope and records it. -/
def assign (path : ScopePath) (name : String) (value : Value) : TraceM World Value := do
  observe (EvalM.define path.current name value)
  note fun _ => .bound path.current name value
  return .void

/-- Creates a closure with a scope of its own and records the scope. -/
def close (path : ScopePath) (params : List String) (body : Value) : TraceM World Value := do
  let id ← observe (EvalM.addScope .empty)
  note fun _ => .created .lambda id
  return .lambda params body (path.push id)

/-- Applies a built-in and records it. -/
def applyBuiltin (tag : Builtin) (arguments : List Value) : TraceM World Value := do
  note fun _ => .applied (.builtin tag) arguments
  observe (tag.invoke (Value.ofList arguments))

/-- Applies a closure up to the evaluation of its body, and records the scope of the call. -/
def enter (procedure : Closure) (arguments : List Value) : TraceM World ScopePath := do
  note fun _ => .applied (.closure procedure) arguments
  let inner ← observe (procedure.bindArguments (Value.ofList arguments))
  note fun _ => .created .call inner.current
  return inner

theorem call_eq_enter (evaluate : Evaluator) (procedure : Closure) (arguments : List Value) :
    call evaluate arguments (.closure procedure)
      = enter procedure arguments >>= fun inner => evaluate procedure.body inner := by
  simp only [call, enter, bind_assoc, pure_bind]

end Trace

/-! ### Invariants -/

/-- What is to be kept: how a world and its record may go on, which values and paths are in order there,
and which faults are allowed, for expressions in order. A world and its record are in order if they may
stay as they are. -/
structure Upkeep where
  expr : Value → Prop
  step : Traced World → Traced World → Prop
  value : Traced World → Value → Prop
  path : Traced World → ScopePath → Prop
  allowed : Fault → Prop

namespace Upkeep

variable (upkeep : Upkeep)

/-- However a computation ends, the world and its record went on as they may; a value is `good`. -/
def Keeps {α : Type} (computation : TraceM World α) (start : Traced World)
    (good : Traced World → α → Prop) : Prop :=
  Moves upkeep.step upkeep.allowed computation start (fun value later => good later value)

/-- What an evaluation can give: nothing, or a value in order. -/
def Outcome (traced : Traced World) (value : Value) : Prop := value = .void ∨ upkeep.value traced value

/-- Everything that evaluation does to the world and the record keeps them in order. -/
structure Lawful : Prop where
  trans : ∀ {first second third}, upkeep.step first second → upkeep.step second third →
    upkeep.step first third
  settled : ∀ {start later}, upkeep.step start later → upkeep.step later later
  value_mono : ∀ {start later value}, upkeep.step start later → upkeep.value start value →
    upkeep.value later value
  path_mono : ∀ {start later path}, upkeep.step start later → upkeep.path start path →
    upkeep.path later path
  parts : ∀ {first rest}, upkeep.expr (.pair first rest) → upkeep.expr first ∧ upkeep.expr rest
  constant : ∀ {start value}, upkeep.expr value → upkeep.value start value
  body : ∀ {start procedure}, upkeep.value start (Closure.toValue procedure) →
    upkeep.expr procedure.body
  mark : ∀ {expr}, (expr = .void ∨ ∃ text, expr = .foreign text) → upkeep.expr expr →
    upkeep.allowed (.notEvaluable expr)
  ordinary : ∀ {fault}, fault.isOrdinary → upkeep.allowed fault
  begun : ∀ {start expr path}, upkeep.step start start → upkeep.expr expr → upkeep.path start path →
    upkeep.step start ⟨start.state, .begun expr path start.state.store.size :: start.entries⟩
  returned : ∀ {start value}, upkeep.step start start → upkeep.Outcome start value →
    upkeep.step start ⟨start.state, .returned value :: start.entries⟩
  symbol : ∀ {start path} name, upkeep.step start start → upkeep.path start path →
    upkeep.Keeps (Trace.observe (evalSymbol name path)) start upkeep.value
  assign : ∀ {start path value} name, upkeep.step start start → upkeep.path start path →
    upkeep.value start value → upkeep.Keeps (Trace.assign path name value) start upkeep.Outcome
  close : ∀ {start path params body}, upkeep.step start start → upkeep.path start path →
    (∀ param ∈ params, upkeep.expr (.sym param)) → upkeep.expr body →
    upkeep.Keeps (Trace.close path params body) start upkeep.Outcome
  applyBuiltin : ∀ {start arguments} tag, upkeep.step start start →
    (∀ argument ∈ arguments, upkeep.value start argument) →
    upkeep.Keeps (Trace.applyBuiltin tag arguments) start upkeep.Outcome
  enter : ∀ {start procedure arguments}, upkeep.step start start →
    upkeep.value start (Closure.toValue procedure) →
    (∀ argument ∈ arguments, upkeep.value start argument) →
    upkeep.Keeps (Trace.enter procedure arguments) start upkeep.path

variable {upkeep}

theorem Keeps.pure {α : Type} {value : α} {start : Traced World} {good : Traced World → α → Prop}
    (here : upkeep.step start start) (holds : good start value) :
    upkeep.Keeps (Pure.pure value) start good := ⟨here, holds⟩

namespace Lawful

/-- The members of a list in order are in order. -/
theorem items (lawful : upkeep.Lawful) {items : List Value} (ready : upkeep.expr (Value.ofList items)) :
    ∀ item ∈ items, upkeep.expr item := by
  induction items with
  | nil => exact fun _ member => absurd member List.not_mem_nil
  | cons item rest ih =>
      obtain ⟨first, others⟩ := lawful.parts ready
      exact List.forall_mem_cons.mpr ⟨first, ih others⟩

section Rules

variable (lawful : upkeep.Lawful) {α β : Type} {start : Traced World} (here : upkeep.step start start)
  {good : Traced World → α → Prop}
include lawful

theorem bind {first : TraceM World α} {next : α → TraceM World β} {last : Traced World → β → Prop}
    (keeps : upkeep.Keeps first start good)
    (rest : ∀ value middle, upkeep.step start middle → good middle value →
      upkeep.Keeps (next value) middle last) : upkeep.Keeps (first >>= next) start last := by
  refine Moves.bind ?_ keeps rest
  exact lawful.trans

include here

theorem throw {fault : Fault} (ordinary : fault.isOrdinary) :
    upkeep.Keeps (MonadExcept.throw fault) start good := ⟨here, lawful.ordinary ordinary⟩

/-- A check that gives a good value or an ordinary fault. -/
theorem check {check : Except Fault α} (holds : ∀ value, check = .ok value → good start value)
    (ordinary : ∀ fault, check = .error fault → fault.isOrdinary) :
    upkeep.Keeps (Trace.observe (EvalM.ofExcept check)) start good := by
  refine Trace.ensures_observe.mpr (ensures_ofExcept.mpr ⟨fun value found => ?_, fun fault found => ?_⟩)
  · exact ⟨here, holds value found⟩
  · exact ⟨here, lawful.ordinary (ordinary fault found)⟩

theorem callable {value : Value} (known : upkeep.value start value) (form : Value) :
    upkeep.Keeps (Trace.observe (EvalM.ofExcept (Callable.ofValue value form))) start
      (fun later callable => upkeep.value later callable.toValue) := by
  refine lawful.check here (fun callable found => ?_) (fun fault failed => ?_)
  · rwa [← Callable.ofValue_eq_ok_iff.mp found]
  · cases value with
    | builtin | lambda => cases failed
    | _ =>
        cases failed
        rfl

theorem elements {operands : Value} (ready : upkeep.expr operands) :
    upkeep.Keeps (Trace.observe (EvalM.ofExcept operands.elements)) start
      (fun _ items => ∀ item ∈ items, upkeep.expr item) := by
  refine lawful.check here (fun items found => ?_) (fun fault failed => ?_)
  · rw [Value.elements_eq_ok_iff.mp found] at ready
    exact lawful.items ready
  · cases Value.elements_eq_error failed
    rfl

end Rules

/-! ### Evaluation -/

section Evaluation

variable (lawful : upkeep.Lawful) {evaluate : Trace.Evaluator}
  (law : ∀ expr path start, upkeep.step start start → upkeep.expr expr → upkeep.path start path →
    upkeep.Keeps (evaluate expr path) start upkeep.Outcome)
  {path : ScopePath} {start : Traced World} (here : upkeep.step start start)
  (known : upkeep.path start path)
include lawful law here known

theorem evalValue {expr : Value} (ready : upkeep.expr expr) :
    upkeep.Keeps (Trace.evalValue evaluate expr path) start upkeep.value := by
  refine lawful.bind (law expr path start here ready known) fun value middle onward holds => ?_
  have there := lawful.settled onward
  cases value with
  | void => exact lawful.throw there rfl
  | _ => exact .pure there (holds.resolve_left (by nofun))

theorem evalArguments {items done : List Value} (ready : ∀ item ∈ items, upkeep.expr item)
    (complete : ∀ value ∈ done, upkeep.value start value) :
    upkeep.Keeps (Trace.evalArguments evaluate path items done) start
      (fun later values => ∀ value ∈ values, upkeep.value later value) := by
  induction items generalizing done start with
  | nil => exact .pure here fun value member => complete value (List.mem_reverse.mp member)
  | cons item rest ih =>
      obtain ⟨first, others⟩ := List.forall_mem_cons.mp ready
      refine lawful.bind (law item path start here first known) fun value middle onward holds => ?_
      have there := lawful.settled onward
      have extended : upkeep.value middle value → ∀ each ∈ value :: done, upkeep.value middle each :=
        fun new => List.forall_mem_cons.mpr
          ⟨new, fun each member => lawful.value_mono onward (complete each member)⟩
      cases value with
      | void => exact lawful.throw there rfl
      | _ =>
          have new := extended (holds.resolve_left (by nofun))
          exact ih there (lawful.path_mono onward known) others new

omit known in
theorem call {callable : Callable} {arguments : List Value}
    (applied : upkeep.value start callable.toValue)
    (each : ∀ argument ∈ arguments, upkeep.value start argument) :
    upkeep.Keeps (Trace.call evaluate arguments callable) start upkeep.Outcome := by
  cases callable with
  | builtin tag => exact lawful.applyBuiltin tag here each
  | closure procedure =>
      rw [Trace.call_eq_enter]
      refine lawful.bind (lawful.enter here applied each) fun inner middle onward entered => ?_
      exact law procedure.body inner middle (lawful.settled onward) (lawful.body applied) entered

theorem evalCall {form operator operands : Value}
    (ready : upkeep.expr (.pair operator operands)) :
    upkeep.Keeps (Trace.evalCall evaluate form operator operands path) start upkeep.Outcome := by
  obtain ⟨function, others⟩ := lawful.parts ready
  refine lawful.bind (lawful.evalValue law here known function) fun value first one named => ?_
  refine lawful.bind (lawful.callable (lawful.settled one) named form)
    fun callable second two applied => ?_
  refine lawful.bind (lawful.elements (lawful.settled two) others)
    fun items third three parts => ?_
  have kept := lawful.path_mono (lawful.trans one (lawful.trans two three)) known
  refine lawful.bind (lawful.evalArguments law (lawful.settled three) kept parts
    fun _ member => absurd member List.not_mem_nil) fun arguments last four each => ?_
  exact lawful.call law (lawful.settled four) (lawful.value_mono (lawful.trans three four) applied) each

/-- **One step keeps everything in order** if the evaluator of the parts does. -/
theorem evalShape {expr : Value} {shape : Shape} (fits : Fits expr shape) (ready : upkeep.expr expr) :
    upkeep.Keeps (Trace.evalShape evaluate expr path shape) start upkeep.Outcome := by
  cases fits with
  | self itself => exact .pure here (.inr (lawful.constant ready))
  | quote datum others =>
      have quoted := (lawful.parts (lawful.parts ready).2).1
      exact .pure here (.inr (lawful.constant quoted))
  | symbol name => exact Moves.weaken (lawful.symbol name here known) fun _ _ => .inr
  | define name operand =>
      have inner := lawful.items ready operand (by simp)
      refine lawful.bind (law operand path start here inner known) fun value middle onward holds => ?_
      have there := lawful.settled onward
      have kept := lawful.path_mono onward known
      cases value with
      | void => exact lawful.throw there rfl
      | _ => exact lawful.assign name there kept (holds.resolve_left (by nofun))
  | lambda params body =>
      have parts := lawful.items ready
      have named := lawful.items (parts (Value.ofList (params.map .sym)) (by simp))
      exact lawful.close here known (fun param member => named _ (List.mem_map_of_mem member))
        (parts body (by simp))
  | branch condition whenTrue whenFalse =>
      have parts := lawful.items ready
      refine lawful.bind (law condition path start here (parts _ (by simp)) known)
        fun value middle onward _ => ?_
      have there := lawful.settled onward
      have kept := lawful.path_mono onward known
      cases value with
      | bool selected =>
          cases selected with
          | true => exact law whenTrue path middle there (parts _ (by simp)) kept
          | false => exact law whenFalse path middle there (parts _ (by simp)) kept
      | _ => exact lawful.throw there rfl
  | call operands ordinary => exact lawful.evalCall law here known ready
  | misshapen kind isKind covered => exact lawful.throw here (Fault.isOrdinary_of_shape isKind covered)
  | mark noValue => exact ⟨here, lawful.mark noValue ready⟩

end Evaluation

/-- **Evaluation keeps everything in order**, by induction on the depth. -/
theorem eval (lawful : upkeep.Lawful) (depth : Nat) {expr : Value} {path : ScopePath}
    {start : Traced World} (here : upkeep.step start start) (ready : upkeep.expr expr)
    (known : upkeep.path start path) :
    upkeep.Keeps (Trace.eval depth expr path) start upkeep.Outcome := by
  have noted {expr : Value} {path : ScopePath} {start : Traced World} (here : upkeep.step start start)
      (ready : upkeep.expr expr) (known : upkeep.path start path) :
      upkeep.Keeps (Trace.note fun world => .begun expr path world.store.size) start
        (fun _ _ => True) := ⟨lawful.begun here ready known, trivial⟩
  induction depth generalizing expr path start with
  | zero =>
      refine lawful.bind (noted here ready known) fun _ later onward _ => ?_
      exact lawful.throw (lawful.settled onward) rfl
  | succ depth ih =>
      refine lawful.bind (noted here ready known) fun _ first onward _ => ?_
      have kept := lawful.path_mono onward known
      refine lawful.bind (lawful.evalShape (fun _ _ _ => ih) (lawful.settled onward) kept
        expr.fits_shape ready) fun value later more holds => ?_
      have returned : upkeep.Keeps (Trace.note fun _ => .returned value) later (fun _ _ => True) :=
        ⟨lawful.returned (lawful.settled more) holds, trivial⟩
      refine lawful.bind returned fun _ last most _ => .pure (lawful.settled most) ?_
      exact holds.imp_right (lawful.value_mono most)

end Lawful

end Upkeep

end SmallLisp
