/-
**Running a program in pieces.**

A text that can be read to its end, a line feed and any other text are run as the two texts one after
the other. The texts are read one after the other (`readSource_lineFeed`), the forms of both are
evaluated in a row (`evaluateAll_append`), and it makes no difference to the later forms that the
journal has noted the end of a run in between (`together_evaluateAll`).
-/

import SmallLisp.Proofs.Eval.Faults
import SmallLisp.Proofs.Eval.Together
import SmallLisp.Proofs.Reader.Pieces

namespace SmallLisp

/-- The form that an entry of the journal is about. -/
def Event.form? : Event → Option Value
  | .evaluating form => some form
  | .evaluated _ => none

theorem Fault.moved_of_offReading {fault : Fault} (known : fault.OffReading) (offset : Nat) :
    fault.moved offset = fault := by
  cases fault with
  | openString position => cases known
  | _ => rfl

namespace Session

/-- The forms whose evaluation was begun, newest first. -/
def begun (session : Session) : List Value := session.journal.filterMap Event.form?

/-- Two sessions in which the same forms were begun, with the same world. -/
structure Alike (left right : Session) : Prop where
  depth : left.depth = right.depth
  world : left.world = right.world
  begun : left.begun = right.begun

theorem Alike.refl (session : Session) : session.Alike session := ⟨rfl, rfl, rfl⟩

theorem alike_evaluated (session : Session) (count : Nat) :
    session.Alike { session with journal := .evaluated count :: session.journal } := ⟨rfl, rfl, rfl⟩

/-- Runs two texts one after the other, the second only if the first does not fail. -/
def runBoth (first second : String) : SessionM (List Value) := do
  return (← run first) ++ (← run second)

/-- What a run ends with after its forms. -/
def conclude (fault : Option Fault) (results : List Value) : SessionM (List Value) :=
  match fault with
  | some fault => throw fault
  | none => do
    record (.evaluated results.length)
    return results

theorem run_apply (code : String) (session : Session) :
    run code session =
      (evaluateAll (readSource session.depth code).forms []
        >>= conclude (readSource session.depth code).fault) session := rfl

theorem evaluateAll_append (first second done : List Value) :
    evaluateAll (first ++ second) done
      = evaluateAll first done >>= fun results => evaluateAll second results.reverse := by
  induction first generalizing done with
  | nil =>
      show evaluateAll second done = pure done.reverse >>= _
      rw [pure_bind, List.reverse_reverse]
  | cons form rest ih =>
      show (evaluate form >>= fun result => evaluateAll (rest ++ second) (result :: done))
        = (evaluate form >>= fun result => evaluateAll rest (result :: done)) >>= _
      rw [bind_assoc]
      exact bind_congr fun result => ih _

/-- A form has the same outcome in sessions that are alike, and no fault that an offset moves. -/
theorem together_evaluate (form : Value) (offset : Nat) {left right : Session}
    (alike : left.Alike right) :
    Together (evaluate form) (evaluate form) left right
      (fun value later other last => value = other ∧ later.Alike last ∧ later.depth = left.depth)
      (fun fault later other last => fault = other.moved offset ∧ later.Alike last) := by
  obtain ⟨depth, world, begun⟩ := alike
  have known := raises_eval right.depth form .top right.world
  have noted : form :: left.begun = form :: right.begun := congrArg (form :: ·) begun
  unfold Together
  rw [evaluate_apply, evaluate_apply, depth, world]
  unfold Ensures at known
  cases ended : eval right.depth form .top right.world with
  | ok value world => exact ⟨rfl, ⟨rfl, rfl, noted⟩, rfl⟩
  | error fault world =>
      rw [ended] at known
      refine ⟨(Fault.moved_of_offReading ?_ offset).symm, rfl, rfl, noted⟩
      cases fault with
      | depthExhausted => rfl
      | _ => exact known

/-- **Forms have the same outcomes in sessions that are alike**, whatever results came before. -/
theorem together_evaluateAll (forms done others : List Value) (offset : Nat) {left right : Session}
    (alike : left.Alike right) :
    Together (evaluateAll forms done) (evaluateAll forms others) left right
      (fun results later more last =>
        (∃ new, results = done.reverse ++ new ∧ more = others.reverse ++ new) ∧
          later.Alike last ∧ later.depth = left.depth)
      (fun fault later other last => fault = other.moved offset ∧ later.Alike last) := by
  induction forms generalizing done others left right with
  | nil => exact ⟨⟨[], (List.append_nil _).symm, (List.append_nil _).symm⟩, alike, rfl⟩
  | cons form rest ih =>
      refine (together_evaluate form offset alike).bind
        fun value later _ last ⟨same, alike, depth⟩ => ?_
      subst same
      refine Together.mono (ih (value :: done) (value :: others) alike) ?_ fun _ _ _ _ ended => ended
      rintro results final more stopped ⟨⟨new, rfl, rfl⟩, alike, kept⟩
      exact ⟨⟨value :: new, by simp, by simp⟩, alike, kept.trans depth⟩

/-- What follows a run follows its forms and its end. -/
theorem run_bind (code : String) (next : List Value → SessionM (List Value)) (session : Session) :
    (run code >>= next) session =
      (evaluateAll (readSource session.depth code).forms []
        >>= fun results => conclude (readSource session.depth code).fault results >>= next)
        session := by
  rw [← bind_assoc]
  show EStateM.bind (run code) next session = EStateM.bind _ next session
  unfold EStateM.bind
  rw [run_apply]

/-- **The forms of a second text** have the same outcomes right behind the forms of the first as
after the end of the first run. -/
theorem together_second (second : String) (results : List Value) (offset : Nat)
    {left right : Session} (alike : left.Alike right) :
    Together
      (evaluateAll (readSource left.depth second).forms results.reverse >>=
        conclude ((readSource left.depth second).fault.map (.moved offset)))
      (do
        record (.evaluated results.length)
        return results ++ (← run second))
      left right
      (fun values later both last => values = both ∧ later.Alike last)
      (fun fault later other last => fault = other.moved offset ∧ later.Alike last) := by
  let noted : Session := { right with journal := .evaluated results.length :: right.journal }
  have onward : (do
      record (.evaluated results.length)
      return results ++ (← run second) : SessionM (List Value)) right = _ :=
    run_bind second (fun more => pure (results ++ more)) noted
  rw [show noted.depth = left.depth from alike.depth.symm] at onward
  unfold Together
  rw [onward]
  change Together _ _ left noted _ _
  have unheard : left.Alike noted := ⟨alike.depth, alike.world, alike.begun⟩
  refine (together_evaluateAll _ results.reverse [] offset unheard).bind ?_
  rintro _ later new last ⟨⟨_, rfl, rfl⟩, alike, -⟩
  rw [List.reverse_reverse]
  cases (readSource left.depth second).fault with
  | some cause => exact ⟨rfl, alike⟩
  | none => exact ⟨rfl, alike.depth, alike.world, alike.begun⟩

end Session

section Seam

open Session

variable (session : Session) (first second : String)
  (readable : (readSource session.depth first).fault = none)
include readable

theorem run_lineFeed :
    run (first ++ "\n" ++ second) session =
      (evaluateAll (readSource session.depth first).forms [] >>= fun results =>
        evaluateAll (readSource session.depth second).forms results.reverse >>=
          conclude ((readSource session.depth second).fault.map (.moved (first.length + 1))))
        session := by
  rw [run_apply, readSource_lineFeed readable, evaluateAll_append, bind_assoc]

/-- **A text, a line feed and another text** run as the two texts one after the other. -/
theorem together_run :
    Together (run (first ++ "\n" ++ second)) (runBoth first second) session session
      (fun results later both last => results = both ∧ later.Alike last)
      (fun fault later other last => fault = other.moved (first.length + 1) ∧ later.Alike last) := by
  have pieces : runBoth first second session =
      (evaluateAll (readSource session.depth first).forms [] >>= fun results => do
        record (.evaluated results.length)
        return results ++ (← run second)) session := by
    rw [runBoth, run_bind, readable]
    rfl
  unfold Together
  rw [run_lineFeed session first second readable, pieces]
  change Together _ _ session session _ _
  refine (together_evaluateAll _ [] [] _ (.refl session)).bind ?_
  rintro _ middle results stopped ⟨⟨_, rfl, rfl⟩, alike, depth⟩
  rw [← depth]
  exact together_second second _ _ alike

/-- A second text of which no form can be read leaves things as they are after the first. -/
theorem alike_after_run (unreadable : (readSource session.depth second).forms = []) :
    (after (run (first ++ "\n" ++ second)) session).Alike (after (run first) session) := by
  have whole : after (run (first ++ "\n" ++ second)) session =
      after (evaluateAll (readSource session.depth first).forms [] >>=
        fun results => evaluateAll [] results.reverse >>=
          conclude ((readSource session.depth second).fault.map (.moved (first.length + 1))))
        session := by
    unfold after
    rw [run_lineFeed session first second readable, unreadable]
  have alone : after (run first) session =
      after (evaluateAll (readSource session.depth first).forms [] >>= conclude none) session := by
    unfold after
    rw [run_apply, readable]
  rw [whole, alone, after_bind, after_bind]
  cases evaluateAll (readSource session.depth first).forms [] session with
  | error fault later => exact .refl later
  | ok results later =>
      cases (readSource session.depth second).fault with
      | none => exact ⟨rfl, rfl, rfl⟩
      | some fault => exact alike_evaluated later _

end Seam

theorem Fault.kind?_moved (fault : Fault) (offset : Nat) :
    (fault.moved offset).kind? = fault.kind? := by
  cases fault <;> rfl

open Session in
/-- **Running a program in pieces is running it whole.** Let `first` be a text that can be read to
its end. Running it, a line feed and any text `second` ends as running `first` and, unless that
fails, `second` after it: with the results of both runs in a row, or with the same fault, except that
an unclosed string stands further on; in the same world, and after the same forms. So a fault of
reading in `second` undoes nothing: if no form of it can be read, all is as after `first`. -/
theorem run_in_pieces (session : Session) (first second : String)
    (readable : (readSource session.depth first).fault = none) :
    Together (run (first ++ "\n" ++ second)) (runBoth first second) session session
      (fun results later both last => results = both ∧ later.Alike last)
      (fun fault later other last => fault = other.moved (first.length + 1) ∧
        fault.kind? = other.kind? ∧ later.Alike last) ∧
    ((readSource session.depth second).forms = [] →
      (after (run (first ++ "\n" ++ second)) session).Alike (after (run first) session)) := by
  refine ⟨?_, alike_after_run session first second readable⟩
  refine Together.mono (together_run session first second readable)
    (fun _ _ _ _ ended => ended) fun fault later other last ⟨moved, alike⟩ => ⟨moved, ?_, alike⟩
  rw [moved, Fault.kind?_moved]

open Session in
/-- The comment of the first text ends at the line feed, and the second text ends inside a string. -/
theorem run_in_pieces_comment :
    (readSource (Session.fresh 9).depth "(define x 2) ; two").fault = none ∧
      ∃ later last, run ("(define x 2) ; two" ++ "\n" ++ "(println x) \"z") (.fresh 9)
          = .error (.openString 31) later ∧
        runBoth "(define x 2) ; two" "(println x) \"z" (.fresh 9) = .error (.openString 12) last ∧
        later.Alike last ∧ last.world.output = "2\n" := by
  have readable : (readSource (Session.fresh 9).depth "(define x 2) ; two").fault = none := by
    decide +kernel
  have failed : failure? (runBoth "(define x 2) ; two" "(println x) \"z") (.fresh 9)
      = some (.openString 12) := by decide +kernel
  have printed : (after (runBoth "(define x 2) ; two" "(println x) \"z") (.fresh 9)).world.output
      = "2\n" := by decide +kernel
  have place : Fault.moved ("(define x 2) ; two".length + 1) (.openString 12) = .openString 31 := by
    decide +kernel
  -- The texts are kept closed from here on: nothing below is to run them.
  generalize "(define x 2) ; two" = first at *
  generalize "(println x) \"z" = second at *
  have stopped := failure?_eq_some.mp failed
  obtain ⟨both, -⟩ := run_in_pieces (.fresh 9) first second readable
  obtain ⟨fault, later, whole, moved, -, alike⟩ := both.of_error stopped
  rw [moved, place] at whole
  exact ⟨readable, later, _, whole, stopped, alike, printed⟩

end SmallLisp
