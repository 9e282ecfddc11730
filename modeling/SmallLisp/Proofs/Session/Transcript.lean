/-
**What can be seen of a session.**

A program sees of a session what its forms give: the text of a value, or that there is none, or the
kind and the wording of a fault, and what has been printed. `Session.transcript` is all of this for
the forms of one text after the other.

Sessions *correspond* if they were printed to alike and their stores correspond under some renaming.
Evaluating a form leaves them corresponding (`Corresponds.evaluate`), and so does running a text
(`Corresponds.run`); hence no program can tell them apart (`Corresponds.transcript`).
-/

import SmallLisp.Proofs.Eval.Uniform
import SmallLisp.Proofs.Scope.Compose
import SmallLisp.Proofs.Session.Pieces

namespace SmallLisp

/-! ### Observations -/

/-- The text of a value, and nothing for the mark of no value. -/
def Value.shown (value : Value) : Option String :=
  if value = .void then none else some value.render

/-- What can be seen of a form: the text of its value, if it has one, or the kind and the wording of
its fault; and all that has been printed. -/
structure Observation where
  outcome : Except (Option Kind × String) (Option String)
  output : String
  deriving DecidableEq

namespace Session

/-- A value as it is seen in the session it leads to. -/
def observeValue (value : Value) (session : Session) : Observation :=
  ⟨.ok value.shown, session.world.output⟩

/-- A fault as it is seen in the session it leads to. -/
def observeFault (fault : Fault) (session : Session) : Observation :=
  ⟨.error (fault.kind?, fault.message), session.world.output⟩

/-- What is seen of some forms up to the first that fails, and of the fault that ends their text. -/
def observeForms (ending : Option Fault) : List Value → Session → List Observation
  | [], session => ending.toList.map (observeFault · session)
  | form :: forms, session =>
    match evaluate form session with
    | .ok value later => observeValue value later :: observeForms ending forms later
    | .error fault later => [observeFault fault later]

/-- What is seen of each form when a text is run. -/
def observe (code : String) (session : Session) : List Observation :=
  let reading := readSource session.depth code
  observeForms reading.fault reading.forms session

/-- What is seen when texts are run one after the other. -/
def transcript (session : Session) : List String → List (List Observation)
  | [] => []
  | code :: codes => observe code session :: (after (run code) session).transcript codes

/-! ### Sessions that correspond -/

/-- Sessions with the same bound and the same output, whose stores correspond. -/
structure Corresponds (left right : Session) : Prop where
  depth : right.depth = left.depth
  output : right.world.output = left.world.output
  stores : ∃ bijection : Renaming, bijection.Stores left.world.store right.world.store

end Session

/-! ### Faults of top-level forms -/

theorem Fault.head?_digitLimitText (rest : String) :
    (digitLimitText ++ rest).toList.head? = some 'E' := by
  have first : "Exceeds the limit (".toList.head? = some 'E' := by decide
  unfold digitLimitText
  rw [String.append_assoc, String.append_assoc, String.toList_append, List.head?_append, first,
    Option.some_or]

/-- Of the faults without a kind, only that of an exhausted depth is worded as it is. -/
theorem Fault.eq_depthExhausted {fault : Fault} (kind : fault.kind? = none)
    (message : fault.message = Fault.message .depthExhausted) : fault = .depthExhausted := by
  -- the first letter tells them apart
  have letter : fault.message.toList.head? = some 'm' := by
    rw [message]
    decide
  clear message
  cases fault with
  | depthExhausted => rfl
  | textEnd => exact absurd letter (by decide)
  | resultTooLong =>
      change (digitLimitText ++ "; " ++ digitLimitAdvice).toList.head? = _ at letter
      rw [String.append_assoc, head?_digitLimitText] at letter
      exact absurd letter (by decide)
  | digitCount count =>
      change (digitLimitText ++ ": value has " ++ toString count ++ " digits; "
        ++ digitLimitAdvice).toList.head? = _ at letter
      rw [String.append_assoc, String.append_assoc, String.append_assoc,
        head?_digitLimitText] at letter
      exact absurd letter (by decide)
  | _ => cases kind

theorem Session.formFault_of_ne {fault : Fault} (other : fault ≠ .depthExhausted) (form : Value) :
    formFault form fault = fault := by
  cases fault with
  | depthExhausted => exact absurd rfl other
  | _ => rfl

theorem Fault.Alike.formFault {fault other : Fault} (alike : fault.Alike other) (form : Value) :
    (Session.formFault form fault).Alike (Session.formFault form other) := by
  by_cases exhausted : fault = .depthExhausted
  · subst exhausted
    obtain rfl := Fault.eq_depthExhausted alike.kind alike.message
    exact ⟨rfl, rfl⟩
  · have reached : other ≠ .depthExhausted := by
      rintro rfl
      exact exhausted (Fault.eq_depthExhausted alike.kind.symm alike.message.symm)
    rwa [Session.formFault_of_ne exhausted, Session.formFault_of_ne reached]

/-! ### Corresponding sessions run alike -/

theorem Value.shown_rename (map : Int → Int) (value : Value) :
    (value.rename map).shown = value.shown := by
  unfold shown
  rw [render_rename]
  by_cases none : value = .void
  · rw [if_pos none, if_pos (rename_eq_void.mpr none)]
  · rw [if_neg none, if_neg (mt rename_eq_void.mp none)]

theorem Renaming.Leads.corresponds {bijection larger : Renaming} {left right later last : World}
    (leads : bijection.Leads larger left right later last) (same : right.output = left.output)
    (depth : Nat) (journal others : List Event) :
    Session.Corresponds ⟨depth, later, journal⟩ ⟨depth, last, others⟩ := by
  obtain ⟨text, printed, otherPrinted⟩ := leads.printed
  refine ⟨rfl, ?_, larger, leads.stores⟩
  show last.output = later.output
  rw [printed, otherPrinted, same]

namespace Session.Corresponds

variable {left right : Session}

/-- **A form gives the same to see in both sessions**, and leaves them corresponding. -/
theorem evaluate (corresponds : left.Corresponds right) {form : Value} (readable : form.isReadable) :
    Together (Session.evaluate form) (Session.evaluate form) left right
      (fun value later other last => other.shown = value.shown ∧ later.Corresponds last)
      (fun fault later other last => fault.Alike other ∧ later.Corresponds last) := by
  obtain ⟨depth, output, bijection, stores⟩ := corresponds
  have onTop : ScopePath.top.Within bijection.source := by
    intro id member
    rw [ScopePath.ids_top, List.mem_singleton] at member
    rw [member]
    exact bijection.top_mem
  have run := uniform_eval left.depth bijection form .top left.world right.world
    (Value.within_of_isReadable readable _) onTop stores
  rw [Value.rename_of_isReadable readable] at run
  refine together_evaluate_of ?_
  rw [depth]
  refine Together.mono run ?_ ?_
  · rintro value later _ last ⟨larger, leads, -, rfl⟩
    exact ⟨value.shown_rename _, leads.corresponds output _ _ _⟩
  · rintro fault later other last ⟨larger, leads, alike⟩
    exact ⟨alike.formFault form, leads.corresponds output _ _ _⟩

theorem evaluateAll (corresponds : left.Corresponds right) {forms : List Value}
    (readable : ∀ form ∈ forms, form.isReadable) (done others : List Value) :
    Together (Session.evaluateAll forms done) (Session.evaluateAll forms others) left right
      (fun _ later _ last => later.Corresponds last) (fun _ later _ last => later.Corresponds last) := by
  induction forms generalizing left right done others with
  | nil => exact corresponds
  | cons form rest ih =>
      obtain ⟨first, later⟩ := List.forall_mem_cons.mp readable
      refine Together.bind ?_ fun value middle other between related =>
        ih related later (value :: done) (other :: others)
      exact Together.mono (corresponds.evaluate first) (fun _ _ _ _ ended => ended.2)
        fun _ _ _ _ ended => ended.2

/-- **Running a text** leaves sessions corresponding, whether it fails or not. -/
theorem run (corresponds : left.Corresponds right) (code : String) :
    (after (Session.run code) left).Corresponds (after (Session.run code) right) := by
  have readable := (readSource_readable left.depth code).1
  have forms := corresponds.evaluateAll readable [] []
  have whole : Together (Session.run code) (Session.run code) left right
      (fun _ later _ last => later.Corresponds last)
      (fun _ later _ last => later.Corresponds last) := by
    unfold Together
    rw [run_apply, run_apply, corresponds.depth]
    refine Together.bind forms fun results middle others between related => ?_
    cases (readSource left.depth code).fault with
    | some fault => exact related
    | none => exact ⟨related.depth, related.output, related.stores⟩
  exact whole.afters Session.Corresponds (fun _ _ _ _ ended => ended) fun _ _ _ _ ended => ended

/-- Forms that are readable give the same to see. -/
theorem observeForms (corresponds : left.Corresponds right) (ending : Option Fault)
    {forms : List Value} (readable : ∀ form ∈ forms, form.isReadable) :
    Session.observeForms ending forms right = Session.observeForms ending forms left := by
  induction forms generalizing left right with
  | nil =>
      unfold Session.observeForms Session.observeFault
      rw [corresponds.output]
  | cons form rest ih =>
      obtain ⟨first, later⟩ := List.forall_mem_cons.mp readable
      unfold Session.observeForms
      rcases (corresponds.evaluate first).endings with
        ⟨value, middle, other, between, one, two, shown, related⟩
        | ⟨fault, middle, other, between, one, two, alike, related⟩
      · rw [one, two]
        show observeValue other between :: _ = observeValue value middle :: _
        rw [ih related later, observeValue, observeValue, shown, related.output]
      · rw [one, two]
        show [observeFault other between] = [observeFault fault middle]
        rw [observeFault, observeFault, alike.kind, alike.message, related.output]

/-- **No program can tell corresponding sessions apart.** -/
theorem transcript (corresponds : left.Corresponds right) (codes : List String) :
    right.transcript codes = left.transcript codes := by
  induction codes generalizing left right with
  | nil => rfl
  | cons code codes ih =>
      have same : observe code right = observe code left := by
        unfold observe
        rw [corresponds.depth]
        exact corresponds.observeForms _ (readSource_readable left.depth code).1
      rw [Session.transcript, Session.transcript, ih (corresponds.run code), same]

end Session.Corresponds

end SmallLisp
