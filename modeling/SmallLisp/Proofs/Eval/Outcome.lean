/-
**What holds after a computation.**

A computation ends with a value or with a fault and leaves a state in either case. `Ensures` states
what holds of each of the two endings, with one rule for each way in which computations are built;
`after` is the state that is left, whatever the ending. Proofs about evaluation use these rules and
never look at how the two endings are represented.
-/

import SmallLisp.Session

namespace SmallLisp

variable {σ α β : Type}

/-- The state that a computation leaves, whether it fails or not. -/
def after (computation : EStateM Fault σ α) (state : σ) : σ :=
  match computation state with
  | .ok _ later => later
  | .error _ later => later

/-- The fault that a computation ends with, if it fails. -/
def failure? (computation : EStateM Fault σ α) (state : σ) : Option Fault :=
  match computation state with
  | .ok _ _ => none
  | .error fault _ => some fault

theorem failure?_eq_some {computation : EStateM Fault σ α} {state : σ} {fault : Fault} :
    failure? computation state = some fault
      ↔ computation state = .error fault (after computation state) := by
  unfold failure? after
  cases computation state <;> simp

/-- A computation ends with a value and a state for which `onValue` holds, or with a fault and a
state for which `onFault` holds. -/
def Ensures (computation : EStateM Fault σ α) (state : σ) (onValue : α → σ → Prop)
    (onFault : Fault → σ → Prop) : Prop :=
  match computation state with
  | .ok value later => onValue value later
  | .error fault later => onFault fault later

section Rules

variable {computation : EStateM Fault σ α} {state : σ} {onValue : α → σ → Prop}
  {onFault : Fault → σ → Prop}

/-- What holds of both endings holds of the state that is left. -/
theorem ensures_state (property : σ → Prop) :
    Ensures computation state (fun _ later => property later) (fun _ later => property later)
      ↔ property (after computation state) := by
  unfold Ensures after
  cases computation state <;> rfl

theorem Ensures.mono {onValue' : α → σ → Prop} {onFault' : Fault → σ → Prop}
    (holds : Ensures computation state onValue onFault)
    (value : ∀ result later, onValue result later → onValue' result later)
    (fault : ∀ cause later, onFault cause later → onFault' cause later) :
    Ensures computation state onValue' onFault' := by
  unfold Ensures at *
  split at holds
  · exact value _ _ holds
  · exact fault _ _ holds

theorem Ensures.of_ok (holds : Ensures computation state onValue onFault) {value : α} {later : σ}
    (ended : computation state = .ok value later) : onValue value later := by
  rwa [Ensures, ended] at holds

@[simp] theorem ensures_pure {result : α} :
    Ensures (pure result) state onValue onFault ↔ onValue result state := Iff.rfl

@[simp] theorem ensures_throw {fault : Fault} :
    Ensures (throw fault) state onValue onFault ↔ onFault fault state := Iff.rfl

/-- **One computation after the other**: the second starts in the state that the first left. -/
theorem ensures_bind {first : EStateM Fault σ β} {next : β → EStateM Fault σ α} :
    Ensures (first >>= next) state onValue onFault ↔
      Ensures first state (fun result later => Ensures (next result) later onValue onFault)
        onFault := by
  show (match EStateM.bind first next state with
    | .ok value later => onValue value later
    | .error fault later => onFault fault later) ↔ _
  unfold EStateM.bind Ensures
  cases first state <;> rfl

end Rules

theorem bind_of_ok {first : EStateM Fault σ β} {next : β → EStateM Fault σ α} {state later : σ}
    {value : β} (ended : first state = .ok value later) :
    (first >>= next) state = next value later := by
  show EStateM.bind first next state = _
  rw [EStateM.bind, ended]

theorem bind_of_error {first : EStateM Fault σ β} {next : β → EStateM Fault σ α} {state later : σ}
    {fault : Fault} (ended : first state = .error fault later) :
    (first >>= next) state = .error fault later := by
  show EStateM.bind first next state = _
  rw [EStateM.bind, ended]

/-- A value comes from two computations in a row if the first gave what the second gave it for. -/
theorem bind_ends_iff {first : EStateM Fault σ β} {next : β → EStateM Fault σ α} {state later : σ}
    {value : α} :
    (first >>= next) state = .ok value later ↔
      ∃ result middle, first state = .ok result middle ∧ next result middle = .ok value later := by
  cases ended : first state with
  | ok result middle => simp [bind_of_ok ended, and_assoc]
  | error fault middle => simp [bind_of_error ended]

/-- Two computations in a row fail if the first does, or the second after the first gave a value. -/
theorem bind_fails_iff {first : EStateM Fault σ β} {next : β → EStateM Fault σ α} {state later : σ}
    {fault : Fault} :
    (first >>= next) state = .error fault later ↔ first state = .error fault later ∨
      ∃ result middle, first state = .ok result middle ∧ next result middle = .error fault later := by
  cases ended : first state with
  | ok result middle => simp [bind_of_ok ended, and_assoc]
  | error fault middle => simp [bind_of_error ended]

theorem after_bind (first : EStateM Fault σ β) (next : β → EStateM Fault σ α) (state : σ) :
    after (first >>= next) state =
      match first state with
      | .ok value later => after (next value) later
      | .error _ later => later := by
  show (match EStateM.bind first next state with
    | .ok _ later => later
    | .error _ later => later) = _
  unfold EStateM.bind after
  cases first state <;> rfl

/-! ### Steps that add up -/

/-- However a computation ends, the state has moved by `step`; a value is `good`, a fault `allowed`. -/
def Moves (step : σ → σ → Prop) (allowed : Fault → Prop) (computation : EStateM Fault σ α)
    (start : σ) (good : α → σ → Prop) : Prop :=
  Ensures computation start (fun value later => step start later ∧ good value later)
    (fun fault later => step start later ∧ allowed fault)

namespace Moves

variable {step : σ → σ → Prop} {allowed : Fault → Prop} {computation : EStateM Fault σ α} {start : σ}
  {good : α → σ → Prop}

theorem weaken {weaker : α → σ → Prop} (moves : Moves step allowed computation start good)
    (holds : ∀ value later, good value later → weaker value later) :
    Moves step allowed computation start weaker :=
  Ensures.mono moves (fun value later ⟨moved, known⟩ => ⟨moved, holds value later known⟩)
    fun _ _ ended => ended

/-- **Steps that add up move a computation and what follows it** by one step of the same kind. -/
theorem bind (trans : ∀ {first second third}, step first second → step second third →
      step first third) {next : α → EStateM Fault σ β} {last : β → σ → Prop}
    (moves : Moves step allowed computation start good)
    (rest : ∀ value middle, step start middle → good value middle →
      Moves step allowed (next value) middle last) :
    Moves step allowed (computation >>= next) start last := by
  unfold Moves
  rw [ensures_bind]
  refine Ensures.mono moves (fun value middle ⟨moved, known⟩ => ?_) fun _ _ ended => ended
  refine Ensures.mono (rest value middle moved known) ?_ ?_
  · exact fun _ _ ⟨more, holds⟩ => ⟨trans moved more, holds⟩
  · exact fun _ _ ⟨more, holds⟩ => ⟨trans moved more, holds⟩

theorem step_after (moves : Moves step allowed computation start good) :
    step start (after computation start) :=
  (ensures_state _).mp (Ensures.mono moves (fun _ _ ended => ended.1) fun _ _ ended => ended.1)

theorem of_step_after (moved : step start (after computation start)) :
    Moves step (fun _ => True) computation start (fun _ _ => True) :=
  Ensures.mono ((ensures_state (step start)).mpr moved) (fun _ _ known => ⟨known, trivial⟩)
    fun _ _ known => ⟨known, trivial⟩

end Moves

/-! ### The operations on the world -/

section World

variable {world : World} {onFault : Fault → World → Prop}

/-- A pure check succeeds with its value or fails with its fault, and changes nothing. -/
theorem ensures_ofExcept {check : Except Fault α} {onValue : α → World → Prop} :
    Ensures (EvalM.ofExcept check) world onValue onFault ↔
      (∀ value, check = .ok value → onValue value world) ∧
      (∀ fault, check = .error fault → onFault fault world) := by
  cases check <;> simp [EvalM.ofExcept]

theorem ofExcept_ends_iff {check : Except Fault α} {value : α} {later : World} :
    EvalM.ofExcept check world = .ok value later ↔ check = .ok value ∧ later = world := by
  cases check <;> simp [eq_comm]

theorem ensures_addScope {scope : Scope} {onValue : Int → World → Prop} :
    Ensures (EvalM.addScope scope) world onValue onFault ↔
      onValue world.store.size { world with store := (world.store.add scope).2 } := Iff.rfl

/-- A binding is made in a scope that exists; otherwise nothing changes. -/
theorem ensures_define {id : Int} {name : String} {value : Value} {onValue : Unit → World → Prop} :
    Ensures (EvalM.define id name value) world onValue onFault ↔
      if world.store.contains id then
        onValue () { world with store := world.store.bindAt id.toNat name value }
      else onFault (.noScope id) world := by
  rw [Ensures, EvalM.define_apply, ScopeStore.define]
  by_cases known : world.store.contains id
  · rw [if_pos known, if_pos known]
  · rw [if_neg known, if_neg known]

/-- Looking a name up changes nothing. -/
theorem ensures_resolve {path : ScopePath} {name : String}
    {onValue : Option Value → World → Prop} :
    Ensures (EvalM.resolve path name) world onValue onFault ↔
      (∀ found, world.store.resolve path name = .ok found → onValue found world) ∧
      (∀ fault, world.store.resolve path name = .error fault → onFault fault world) := by
  rw [Ensures, EvalM.resolve_apply]
  cases world.store.resolve path name <;> simp

/-- A built-in gives its result and prints its text, or fails and changes nothing. -/
theorem ensures_invoke {tag : Builtin} {arguments : Value} {onValue : Value → World → Prop} :
    Ensures (tag.invoke arguments) world onValue onFault ↔
      (∀ result text, tag.apply arguments = .ok (result, text) →
        onValue result { world with output := world.output ++ text }) ∧
      (∀ fault, tag.apply arguments = .error fault → onFault fault world) := by
  rw [Builtin.invoke, ensures_bind, ensures_ofExcept]
  refine and_congr ?_ Iff.rfl
  constructor
  · intro holds result text applied
    exact holds (result, text) applied
  · rintro holds ⟨result, text⟩ applied
    exact holds result text applied

end World

/-- A top-level form is evaluated under the top path, in the world of the session; a fault is
reported with the form. -/
theorem Session.evaluate_apply (form : Value) (session : Session) :
    evaluate form session =
      match eval session.depth form .top session.world with
      | .ok value world => .ok value ⟨session.depth, world, .evaluating form :: session.journal⟩
      | .error fault world => .error (formFault form fault)
          ⟨session.depth, world, .evaluating form :: session.journal⟩ := rfl

theorem Session.evaluate_of_ok {form value : Value} {session : Session} {world : World}
    (ended : eval session.depth form .top session.world = .ok value world) :
    evaluate form session = .ok value ⟨session.depth, world, .evaluating form :: session.journal⟩ := by
  rw [evaluate_apply, ended]

theorem Session.evaluate_of_error {form : Value} {session : Session} {fault : Fault} {world : World}
    (failed : eval session.depth form .top session.world = .error fault world) :
    evaluate form session =
      .error (formFault form fault) ⟨session.depth, world, .evaluating form :: session.journal⟩ := by
  rw [evaluate_apply, failed]

theorem ensures_evaluate {form : Value} {session : Session} {onValue : Value → Session → Prop}
    {onFault : Fault → Session → Prop} :
    Ensures (Session.evaluate form) session onValue onFault ↔
      Ensures (eval session.depth form .top) session.world
        (fun value world => onValue value ⟨session.depth, world, .evaluating form :: session.journal⟩)
        (fun fault world => onFault (Session.formFault form fault)
          ⟨session.depth, world, .evaluating form :: session.journal⟩) := by
  unfold Ensures
  rw [Session.evaluate_apply]
  cases eval session.depth form .top session.world <;> rfl

end SmallLisp
