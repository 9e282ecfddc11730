/-
**What can happen to a session.**

A session starts fresh and is driven by requests, each with a source text: to run the text, or to run
it and sum the results up. Requests that fail count like the others. `History` pairs every session
that comes about in this way with the record of all evaluations so far and with all values that the
requests returned.

* `Trace.erases_perform`: the record belongs to the session, because the requests that keep it have
  the same outcome as the plain ones;
* `History.sound`: everything is in order after every history. The forms of a text are readable, so
  each of them is evaluated as `Trace.safe_eval` says.
-/

import SmallLisp.Proofs.Eval.Sound
import SmallLisp.Proofs.Reader.Reads

namespace SmallLisp

/-! ### Requests -/

/-- The values in an answer. -/
def Session.Answer.values : Session.Answer → List Value
  | .one value => [value]
  | .many values => values

/-- What a session is asked for. -/
inductive Request where
  | run (code : String)
  | eval (code : String)
  deriving DecidableEq, Repr

/-- Carries a request out and gives the values that it returns. -/
def Request.perform : Request → SessionM (List Value)
  | .run code => Session.run code
  | .eval code => do return (← Session.answer code).values

namespace Trace

/-- The world of a session with its record. -/
def world (traced : Traced Session) : Traced World := ⟨traced.state.world, traced.entries⟩

/-- The session after a form, which left the given world. -/
def withForm (start : Traced Session) (form : Value) (later : Traced World) : Traced Session :=
  ⟨⟨start.state.depth, later.state, .evaluating form :: start.state.journal⟩, later.entries⟩

/-- Evaluates one form at the top level and keeps a record. -/
def evaluateForm (form : Value) : TraceM Session Value := fun start =>
  match eval start.state.depth form .top (world start) with
  | .ok value later => .ok value (withForm start form later)
  | .error fault later => .error (Session.formFault form fault) (withForm start form later)

def evaluateAll : List Value → List Value → TraceM Session (List Value)
  | [], done => return done.reverse
  | form :: forms, done => do
    let result ← evaluateForm form
    evaluateAll forms (result :: done)

def run (code : String) : TraceM Session (List Value) := do
  let session ← observe get
  let reading := readSource session.depth code
  let results ← evaluateAll reading.forms []
  match reading.fault with
  | some fault => throw fault
  | none =>
    observe (Session.record (.evaluated results.length))
    return results

def answer (code : String) : TraceM Session Session.Answer := do
  return Session.Answer.ofResults (← run code)

/-- Carries a request out and keeps a record. -/
def perform : Request → TraceM Session (List Value)
  | .run code => run code
  | .eval code => do return (← answer code).values

/-! ### Without the record -/

theorem erases_evaluateForm (form : Value) : Erases (evaluateForm form) (Session.evaluate form) := by
  intro start
  have same := erases_eval start.state.depth form .top (world start)
  change SmallLisp.eval start.state.depth form .top start.state.world = _ at same
  rw [Session.evaluate_apply, same]
  unfold evaluateForm
  cases eval start.state.depth form .top (world start) <;> rfl

theorem erases_evaluateAll (forms done : List Value) :
    Erases (evaluateAll forms done) (Session.evaluateAll forms done) := by
  induction forms generalizing done with
  | nil => exact .pure _
  | cons form forms ih => exact (erases_evaluateForm form).bind fun result => ih _

theorem erases_run (code : String) : Erases (run code) (Session.run code) := by
  refine (Erases.observe _).bind fun session => (erases_evaluateAll _ _).bind fun results => ?_
  cases (readSource session.depth code).fault with
  | some fault => exact .throw _
  | none => exact (Erases.observe _).bind fun _ => .pure _

/-- **The record of a request changes nothing.** -/
theorem erases_perform (request : Request) : Erases (perform request) request.perform := by
  cases request with
  | run code => exact erases_run code
  | eval code => exact ((erases_run code).bind fun _ => .pure _).bind fun _ => .pure _

/-! ### Requests keep everything in order -/

/-- However a computation ends, everything is in order afterwards and no scope is lost; a value is
`good`, and a fault is ordinary. -/
def SafeSession {α : Type} (computation : TraceM Session α) (start : Traced Session)
    (good : Nat → α → Prop) : Prop :=
  Moves (fun before later => (world before).Grows (world later)) (fun fault => fault.isOrdinary)
    computation start (fun value later => good (world later).size value)

theorem isOrdinary_formFault {fault : Fault} (form : Value) (ordinary : fault.isOrdinary) :
    (Session.formFault form fault).isOrdinary := by
  cases fault with
  | depthExhausted => rfl
  | _ => exact ordinary

theorem isOrdinary_of_isReading {fault : Fault} (known : fault.isReading) : fault.isOrdinary := by
  cases fault with
  | noScope | pathNotFromTop | notEvaluable | resultTooLong => cases known
  | _ => rfl

theorem safe_evaluateForm {form : Value} {start : Traced Session} (sound : (world start).Sound)
    (readable : form.isReadable) : SafeSession (evaluateForm form) start Outcome := by
  have valid := ScopePath.valid_top start.state.world.store.size_pos
  have safe := safe_eval start.state.depth sound readable valid
  unfold SafeSession Moves Ensures evaluateForm
  unfold Safe Moves Ensures at safe
  cases ended : eval start.state.depth form .top (world start) with
  | ok value later =>
      rw [ended] at safe
      exact safe
  | error fault later =>
      rw [ended] at safe
      exact ⟨safe.1, isOrdinary_formFault form safe.2⟩

theorem safe_evaluateAll {forms done : List Value} {start : Traced Session}
    (sound : (world start).Sound) (readable : ∀ form ∈ forms, form.isReadable)
    (complete : ∀ value ∈ done, Outcome (world start).size value) :
    SafeSession (evaluateAll forms done) start
      (fun size values => ∀ value ∈ values, Outcome size value) := by
  induction forms generalizing done start with
  | nil =>
      have reversed := fun value member => complete value (List.mem_reverse.mp member)
      exact ⟨sound.grows, reversed⟩
  | cons form rest ih =>
      obtain ⟨first, others⟩ := List.forall_mem_cons.mp readable
      refine Moves.bind .trans (safe_evaluateForm sound first) fun result middle grown holds => ?_
      refine ih grown.sound others (List.forall_mem_cons.mpr ⟨holds, fun value member => ?_⟩)
      exact (complete value member).imp_right fun known => known.mono grown.le

theorem safe_run (code : String) {start : Traced Session} (sound : (world start).Sound) :
    SafeSession (run code) start (fun size values => ∀ value ∈ values, Outcome size value) := by
  have reading := readSource_readable start.state.depth code
  have forms := safe_evaluateAll sound reading.1 fun _ member => absurd member List.not_mem_nil
  have got : Moves (fun before later => (world before).Grows (world later))
      (fun fault => fault.isOrdinary) (observe get) start
      (fun session later => session = start.state ∧ later = start) := ⟨sound.grows, rfl, rfl⟩
  refine Moves.bind .trans got fun session here _ unchanged => ?_
  obtain ⟨rfl, rfl⟩ := unchanged
  refine Moves.bind .trans forms fun results middle grown holds => ?_
  cases stopped : (readSource here.state.depth code).fault with
  | some fault => exact ⟨grown.sound.grows, isOrdinary_of_isReading (reading.2 fault stopped)⟩
  | none => exact ⟨grown.sound.grows, holds⟩

/-- **A request keeps everything in order**, whether it fails or not. -/
theorem safe_perform (request : Request) {start : Traced Session} (sound : (world start).Sound) :
    SafeSession (perform request) start
      (fun size values => ∀ value ∈ values, Outcome size value) := by
  cases request with
  | run code => exact safe_run code sound
  | eval code =>
      show SafeSession ((run code >>= _) >>= _) start _
      rw [bind_assoc]
      refine Moves.bind .trans (safe_run code sound) fun results middle grown holds => ?_
      refine ⟨grown.sound.grows, ?_⟩
      rcases results with _ | ⟨value, _ | ⟨other, rest⟩⟩
      · exact List.forall_mem_singleton.mpr (.inr rfl)
      · exact holds
      · exact holds

/-- The same of the plain request: the record before it does not matter. -/
theorem ensures_perform (request : Request) {session : Session} {entries : List Entry}
    (sound : Traced.Sound ⟨session.world, entries⟩) :
    Ensures request.perform session
      (fun values later => ∀ value ∈ values, Outcome later.world.store.size value)
      (fun fault _ => fault.isOrdinary) := by
  have safe : SafeSession (perform request) ⟨session, entries⟩ _ := safe_perform request sound
  refine (erases_perform request).ensures.mpr (Ensures.mono safe ?_ ?_)
  · exact fun values later ended => ended.2
  · exact fun fault later ended => ended.2

end Trace

/-! ### Histories -/

/-- The values that a request returns, none if it fails. -/
def Request.returned (request : Request) (session : Session) : List Value :=
  match request.perform session with
  | .ok values _ => values
  | .error _ _ => []

/-- The sessions that come about, each with the record of all evaluations, newest entry first, and
with the values that were returned. -/
inductive History : Session → List Entry → List Value → Prop
  | fresh (depth : Nat) : History (.fresh depth) [] []
  | next {session : Session} {entries : List Entry} {values : List Value} (request : Request)
      (earlier : History session entries values) :
      History (after request.perform session)
        (after (Trace.perform request) ⟨session, entries⟩).entries
        (request.returned session ++ values)

/-- **Everything is in order after every history.** -/
theorem History.sound {session : Session} {entries : List Entry} {values : List Value}
    (history : History session entries values) :
    Traced.Sound ⟨session.world, entries⟩ ∧
      ∀ value ∈ values, Trace.Outcome session.world.store.size value := by
  induction history with
  | fresh depth =>
      refine ⟨⟨ScopeStore.sound_initial, ?_, rfl⟩, ?_⟩
      · exact fun _ member => absurd member List.not_mem_nil
      · exact fun _ member => absurd member List.not_mem_nil
  | @next session entries values request earlier ih =>
      obtain ⟨sound, known⟩ := ih
      have safe : Trace.SafeSession (Trace.perform request) ⟨session, entries⟩ _ :=
        Trace.safe_perform request sound
      have same := (Trace.erases_perform request).state_after ⟨session, entries⟩
      have grown := safe.step_after
      unfold Trace.world at grown
      rw [same] at grown
      refine ⟨grown.sound, fun value member => ?_⟩
      rcases List.mem_append.mp member with new | old
      · have ended := Trace.ensures_perform request sound
        unfold Request.returned at new
        unfold Ensures at ended
        unfold after
        cases outcome : request.perform session with
        | ok results later =>
            rw [outcome] at new ended
            exact ended value new
        | error fault later =>
            rw [outcome] at new
            exact absurd new List.not_mem_nil
      · exact (known value old).imp_right fun here => here.mono grown.le

/-! ### What evaluation keeps -/

namespace Trace

theorem world_after_evaluateForm (form : Value) (start : Traced Session) :
    world (after (evaluateForm form) start)
      = after (eval start.state.depth form .top) (world start) := by
  unfold after evaluateForm
  cases eval start.state.depth form .top (world start) <;> rfl

section Invariant

variable {holds : Traced World → Prop}

/-- However a computation ends, it keeps what holds of the world and its record. -/
def Maintains {α : Type} (holds : Traced World → Prop) (computation : TraceM Session α) : Prop :=
  ∀ start, Moves (fun before later => holds (world before) → holds (world later)) (fun _ => True)
    computation start (fun _ _ => True)

theorem Maintains.bind {α β : Type} {first : TraceM Session α} {next : α → TraceM Session β}
    (maintains : Maintains holds first) (rest : ∀ value, Maintains holds (next value)) :
    Maintains holds (first >>= next) :=
  fun start => Moves.bind (fun one two held => two (one held)) (maintains start)
    fun value middle _ _ => rest value middle

theorem maintains_pure {α : Type} (value : α) : Maintains holds (pure value) :=
  fun _ => ⟨id, trivial⟩

variable (kept : ∀ depth form start, form.isReadable → holds start →
  holds (after (eval depth form .top) start))
include kept

theorem maintains_evaluateAll {forms : List Value} (readable : ∀ form ∈ forms, form.isReadable)
    (done : List Value) : Maintains holds (evaluateAll forms done) := by
  induction forms generalizing done with
  | nil => exact maintains_pure _
  | cons form rest ih =>
      obtain ⟨first, others⟩ := List.forall_mem_cons.mp readable
      refine Maintains.bind (fun start => .of_step_after fun held => ?_) fun result => ih others _
      rw [world_after_evaluateForm]
      exact kept start.state.depth form (world start) first held

theorem maintains_run (code : String) : Maintains holds (run code) := by
  have got : Maintains holds (observe get) := fun _ => ⟨id, trivial⟩
  refine got.bind fun session => ?_
  have readable := (readSource_readable session.depth code).1
  refine (maintains_evaluateAll kept readable []).bind fun results => ?_
  cases (readSource session.depth code).fault with
  | some fault => exact fun _ => ⟨id, trivial⟩
  | none => exact fun _ => ⟨id, trivial⟩

theorem maintains_perform (request : Request) : Maintains holds (perform request) := by
  cases request with
  | run code => exact maintains_run kept code
  | eval code => exact ((maintains_run kept code).bind fun _ => maintains_pure _).bind fun _ => maintains_pure _

end Invariant

end Trace

/-- **What the evaluation of readable forms keeps holds after every history.** -/
theorem History.holds {holds : Traced World → Prop} (initially : holds ⟨.initial, []⟩)
    (kept : ∀ depth form start, form.isReadable → holds start →
      holds (after (Trace.eval depth form .top) start))
    {session : Session} {entries : List Entry} {values : List Value}
    (history : History session entries values) : holds ⟨session.world, entries⟩ := by
  induction history with
  | fresh depth => exact initially
  | @next session entries values request earlier ih =>
      have later := (Trace.maintains_perform kept request ⟨session, entries⟩).step_after ih
      have same := (Trace.erases_perform request).state_after ⟨session, entries⟩
      unfold Trace.world at later
      rwa [same] at later

end SmallLisp
