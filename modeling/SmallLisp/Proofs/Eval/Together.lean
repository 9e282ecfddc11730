/-
**Two computations side by side.**

Two computations, each in a state of its own, are compared by how they end: `Together` says that both
end with values or both with faults, and what holds then of the two values or faults and of the two
states that are left. There is one rule for each way in which computations are built, as for
`Ensures`.
-/

import SmallLisp.Proofs.Eval.Outcome

namespace SmallLisp

variable {σ τ α β γ δ : Type}

/-- Both computations end with values for which `onValues` holds, or both with faults for which
`onFaults` holds. -/
def Together (first : EStateM Fault σ α) (second : EStateM Fault τ β) (left : σ) (right : τ)
    (onValues : α → σ → β → τ → Prop) (onFaults : Fault → σ → Fault → τ → Prop) : Prop :=
  match first left, second right with
  | .ok value later, .ok other last => onValues value later other last
  | .error fault later, .error other last => onFaults fault later other last
  | _, _ => False

section Rules

variable {first : EStateM Fault σ α} {second : EStateM Fault τ β} {left : σ} {right : τ}
  {onValues : α → σ → β → τ → Prop} {onFaults : Fault → σ → Fault → τ → Prop}

theorem Together.mono {onValues' : α → σ → β → τ → Prop} {onFaults' : Fault → σ → Fault → τ → Prop}
    (holds : Together first second left right onValues onFaults)
    (values : ∀ value later other last, onValues value later other last →
      onValues' value later other last)
    (faults : ∀ fault later other last, onFaults fault later other last →
      onFaults' fault later other last) :
    Together first second left right onValues' onFaults' := by
  unfold Together at *
  split at holds
  · exact values _ _ _ _ holds
  · exact faults _ _ _ _ holds
  · exact holds

@[simp] theorem together_pure {value : α} {other : β} :
    Together (pure value) (pure other) left right onValues onFaults
      ↔ onValues value left other right := Iff.rfl

@[simp] theorem together_throw {fault other : Fault} :
    Together (throw fault) (throw other) left right onValues onFaults
      ↔ onFaults fault left other right := Iff.rfl

/-- The two ways to end. -/
theorem Together.endings (holds : Together first second left right onValues onFaults) :
    (∃ value later other last, first left = .ok value later ∧ second right = .ok other last
      ∧ onValues value later other last)
    ∨ ∃ fault later other last, first left = .error fault later ∧ second right = .error other last
      ∧ onFaults fault later other last := by
  unfold Together at holds
  split at holds
  · exact .inl ⟨_, _, _, _, ‹_›, ‹_›, holds⟩
  · exact .inr ⟨_, _, _, _, ‹_›, ‹_›, holds⟩
  · exact holds.elim

theorem Together.of_ok {value : α} {other : β} {later : σ} {last : τ}
    (ended : first left = .ok value later) (endedToo : second right = .ok other last)
    (holds : onValues value later other last) :
    Together first second left right onValues onFaults := by
  unfold Together
  rwa [ended, endedToo]

theorem Together.of_faults {fault other : Fault} {later : σ} {last : τ}
    (failed : first left = .error fault later) (failedToo : second right = .error other last)
    (holds : onFaults fault later other last) :
    Together first second left right onValues onFaults := by
  unfold Together
  rwa [failed, failedToo]

/-- **One pair of computations after the other.** -/
theorem Together.bind {next : α → EStateM Fault σ γ} {otherNext : β → EStateM Fault τ δ}
    {onResults : γ → σ → δ → τ → Prop}
    (holds : Together first second left right onValues onFaults)
    (rest : ∀ value later other last, onValues value later other last →
      Together (next value) (otherNext other) later last onResults onFaults) :
    Together (first >>= next) (second >>= otherNext) left right onResults onFaults := by
  rcases holds.endings with ⟨_, _, _, _, one, two, ended⟩ | ⟨_, _, _, _, one, two, ended⟩
  · have goesOn := rest _ _ _ _ ended
    unfold Together at *
    rwa [bind_of_ok one, bind_of_ok two]
  · exact .of_faults (bind_of_error one) (bind_of_error two) ended

/-- What holds of the states at both endings holds of the states that are left. -/
theorem Together.afters (holds : Together first second left right onValues onFaults)
    (related : σ → τ → Prop)
    (values : ∀ value later other last, onValues value later other last → related later last)
    (faults : ∀ fault later other last, onFaults fault later other last → related later last) :
    related (after first left) (after second right) := by
  unfold after
  rcases holds.endings with ⟨_, _, _, _, one, two, ended⟩ | ⟨_, _, _, _, one, two, ended⟩
  · rw [one, two]
    exact values _ _ _ _ ended
  · rw [one, two]
    exact faults _ _ _ _ ended

/-- If the second computation fails, so does the first. -/
theorem Together.of_error {other : Fault} {last : τ}
    (holds : Together first second left right onValues onFaults)
    (failed : second right = .error other last) :
    ∃ fault later, first left = .error fault later ∧ onFaults fault later other last := by
  rcases holds.endings with ⟨_, _, _, _, -, two, -⟩ | ⟨fault, later, _, _, one, two, ended⟩
  · cases two.symm.trans failed
  · cases two.symm.trans failed
    exact ⟨fault, later, one, ended⟩

end Rules

/-- Two top-level forms are evaluated under the top path, each in the world of its session. -/
theorem together_evaluate_of {form : Value} {left right : Session}
    {onValues : Value → Session → Value → Session → Prop}
    {onFaults : Fault → Session → Fault → Session → Prop}
    (holds : Together (eval left.depth form .top) (eval right.depth form .top) left.world right.world
      (fun value world other otherWorld =>
        onValues value ⟨left.depth, world, .evaluating form :: left.journal⟩
          other ⟨right.depth, otherWorld, .evaluating form :: right.journal⟩)
      (fun fault world other otherWorld =>
        onFaults (Session.formFault form fault)
          ⟨left.depth, world, .evaluating form :: left.journal⟩
          (Session.formFault form other)
          ⟨right.depth, otherWorld, .evaluating form :: right.journal⟩)) :
    Together (Session.evaluate form) (Session.evaluate form) left right onValues onFaults := by
  rcases holds.endings with ⟨_, _, _, _, one, two, ended⟩ | ⟨_, _, _, _, one, two, ended⟩
  · exact .of_ok (Session.evaluate_of_ok one) (Session.evaluate_of_ok two) ended
  · exact .of_faults (Session.evaluate_of_error one) (Session.evaluate_of_error two) ended

end SmallLisp
