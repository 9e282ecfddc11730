/-
**Evaluation keeps its record regular.**

From a regular record that leads to the store, the evaluation of a readable expression under a path of
pairs goes on to a longer record of the same kind, however it ends (`continues_eval`).

What it rests on is that a closure is only ever applied with a scope of the call on top of the path it
captured, and that the captured path ends in the scope made for it: so captured scopes and scopes of calls
take turns (`regularity_enter`).
-/

import SmallLisp.Proofs.Eval.Replay
import SmallLisp.Proofs.Eval.Sound

namespace SmallLisp

open Trace (replay)

namespace Traced

/-- A regular record that leads to the store. -/
structure Regular (traced : Traced World) : Prop where
  store : traced.state.store = replay traced.entries
  entries : Trace.Regular traced.entries

/-- The record goes on and is regular. -/
structure Continues (start later : Traced World) : Prop where
  before : start.entries <:+ later.entries
  regular : later.Regular

variable {start : Traced World}

theorem Regular.continues (regular : start.Regular) : start.Continues start :=
  ⟨List.suffix_rfl, regular⟩

theorem Continues.trans {first second third : Traced World} (one : first.Continues second)
    (two : second.Continues third) : first.Continues third :=
  ⟨one.before.trans two.before, two.regular⟩

/-- An entry that fits, about what was done to the store. -/
theorem Regular.log {entry : Entry} {world : World} (regular : start.Regular)
    (new : entry.Regular start.entries)
    (done : world.store = entry.redo start.entries start.state.store) :
    start.Continues ⟨world, entry :: start.entries⟩ where
  before := List.suffix_cons _ _
  regular := by
    refine ⟨?_, new, regular.entries⟩
    rw [done, regular.store]
    rfl

/-- A scope is created in the way its entry says. -/
theorem Regular.create (regular : start.Regular) (origin : Origin) (scope : Scope)
    (made : (Entry.created origin start.state.store.size).redo start.entries start.state.store
      = (start.state.store.add scope).2) :
    start.Continues ⟨⟨(start.state.store.add scope).2, start.state.output⟩,
      .created origin start.state.store.size :: start.entries⟩ := by
  refine regular.log ?_ made.symm
  show (start.state.store.size : Int) = (replay start.entries).size
  rw [regular.store]

theorem Regular.begun (regular : start.Regular) (expr : Value) {path : ScopePath}
    (paired : path.Paired start.entries) :
    (Entry.begun expr path start.state.store.size).Regular start.entries :=
  ⟨paired, by rw [regular.store]⟩

end Traced

namespace Trace

/-- Regular records as something to be kept: values are linked, and paths consist of pairs. -/
def regularity : Upkeep where
  expr value := value.isReadable
  step := Traced.Continues
  value traced value := value.Linked traced.entries
  path traced path := path.Paired traced.entries
  allowed _ := True

section Operations

variable {start : Traced World} (regular : start.Regular) {path : ScopePath}
  (paired : path.Paired start.entries) {arguments : List Value}
  (each : ∀ argument ∈ arguments, argument.Linked start.entries)
include regular

theorem regularity_symbol (name : String) (path : ScopePath) :
    regularity.Keeps (observe (evalSymbol name path)) start regularity.value := by
  refine ensures_observe.mpr ?_
  unfold evalSymbol
  split
  · exact ⟨regular.continues, trivial⟩
  · rw [ensures_bind, ensures_resolve, regular.store]
    refine ⟨fun found resolved => ?_, fun fault _ => ⟨regular.continues, trivial⟩⟩
    split
    · exact ⟨regular.continues, trivial⟩
    · exact ⟨regular.continues, trivial⟩
    · exact ⟨regular.continues, regular.entries.linked_resolves (resolveIn_eq_ok_iff.mp resolved)⟩

section Path

include paired

theorem regularity_assign (name : String) {value : Value} (linked : value.Linked start.entries) :
    regularity.Keeps (assign path name value) start regularity.Outcome := by
  have bound : start.Continues ⟨⟨start.state.store.bindAt path.current.toNat name value,
      start.state.output⟩, .bound path.current name value :: start.entries⟩ :=
    regular.log ⟨paired.current, linked⟩ rfl
  unfold Upkeep.Keeps Moves assign
  rw [ensures_bind, ensures_observe, ensures_define]
  split
  · exact ⟨bound, .inl rfl⟩
  · exact ⟨regular.continues, trivial⟩

theorem regularity_close (params : List String) {body : Value} (readable : body.isReadable) :
    regularity.Keeps (close path params body) start regularity.Outcome := by
  have captured : (path.push start.state.store.size).Captured
      (.created .lambda start.state.store.size :: start.entries) :=
    ⟨path, _, rfl, paired.mono (List.subset_cons_self _ _), List.mem_cons_self⟩
  exact ⟨regular.create .lambda .empty rfl, .inr ⟨readable, captured⟩⟩

end Path

section Application

include each

theorem regularity_applyBuiltin (tag : Builtin) :
    regularity.Keeps (applyBuiltin tag arguments) start regularity.Outcome := by
  have new : (Entry.applied (.builtin tag) arguments).Regular start.entries := ⟨trivial, each⟩
  unfold Upkeep.Keeps Moves applyBuiltin
  rw [ensures_bind, ensures_note, ensures_observe, ensures_invoke]
  refine ⟨fun result text given => ?_, fun fault _ => ⟨regular.log new rfl, trivial⟩⟩
  have readable := (Builtin.apply_ok given).1
  exact ⟨regular.log new rfl, .inr (Value.linked_of_isReadable _ readable)⟩

/-- The scope of a call goes on top of the scope that the closure captured: the two are a pair. -/
theorem regularity_enter {procedure : Closure} (linked : procedure.toValue.Linked start.entries) :
    regularity.Keeps (enter procedure arguments) start regularity.path := by
  have applied : start.Continues ⟨start.state, .applied (.closure procedure) arguments :: start.entries⟩ :=
    regular.log ⟨linked, each⟩ rfl
  unfold Upkeep.Keeps Moves enter
  rw [ensures_bind, ensures_note, ensures_bind, ensures_observe, Closure.bindArguments,
    ensures_bind, ensures_ofExcept]
  refine ⟨fun scope found => ?_, fun fault _ => ⟨applied, trivial⟩⟩
  obtain ⟨-, rfl⟩ := Closure.argumentScope_eq_ok_iff.mp found
  have created := applied.trans
    (applied.regular.create .call (.ofBindings (procedure.params.zip arguments)) rfl)
  have captured := linked.2.mono created.before.subset
  exact ⟨created, captured.call List.mem_cons_self⟩

end Application

end Operations

/-- **Everything that evaluation does keeps the record regular.** -/
theorem regularity_lawful : regularity.Lawful where
  trans := .trans
  settled onward := onward.regular.continues
  value_mono onward linked := linked.mono onward.before.subset
  path_mono onward paired := paired.mono onward.before.subset
  parts := Bool.and_eq_true_iff.mp
  constant := Value.linked_of_isReadable _
  body linked := linked.1
  mark _ _ := trivial
  ordinary _ := trivial
  begun here _ paired := here.regular.log (here.regular.begun _ paired) rfl
  returned here holds := here.regular.log holds rfl
  symbol name here _ := regularity_symbol here.regular name _
  assign name here paired linked := regularity_assign here.regular paired name linked
  close here paired _ readable := regularity_close here.regular paired _ readable
  applyBuiltin tag here each := regularity_applyBuiltin here.regular each tag
  enter here linked each := regularity_enter here.regular each linked

/-- **Evaluation keeps the record regular**, however it ends. -/
theorem continues_eval (depth : Nat) {expr : Value} {path : ScopePath} {start : Traced World}
    (regular : start.Regular) (readable : expr.isReadable) (paired : path.Paired start.entries) :
    start.Continues (after (eval depth expr path) start) :=
  (regularity_lawful.eval depth regular.continues readable paired).step_after

end Trace

end SmallLisp
