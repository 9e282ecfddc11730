/-
**The store that a record leads to.**

The record of an evaluation says everything that happens to the store: which scopes are created, with
which bindings, and what is bound later. `Trace.replay` goes through a record and does it all again.

A record is *regular* if each entry fits the entries before it: an expression is evaluated under a path
of pairs, each a scope captured by a `lambda` form and a scope of a call; a closure captured such a path
with a scope created for it; and bindings are made at the top level or in the scope of a call. Of a
regular record it follows, without looking at the evaluator again, that

* `Regular.empty`: the scopes that `lambda` forms create are empty, now and at any time before;
* `Regular.unbound`: nothing is ever bound in them;
* `Regular.resolve_without`: paths resolve every name alike with and without them.
-/

import SmallLisp.Proofs.Eval.Binding
import SmallLisp.Proofs.Eval.Rules
import SmallLisp.Proofs.Eval.Trace
import SmallLisp.Proofs.Reader.Literal
import SmallLisp.Proofs.Scope.Bindings

namespace SmallLisp

/-! ### Paths of pairs -/

/-- The top level, followed by pairs of a scope that a `lambda` form created and one of a call. -/
inductive ScopePath.Paired (entries : List Entry) : ScopePath → Prop
  | top : Paired entries .top
  | call {outer : ScopePath} {captured invoked : Int} (paired : Paired entries outer)
      (isCaptured : .created .lambda captured ∈ entries)
      (isInvoked : .created .call invoked ∈ entries) :
      Paired entries ((outer.push captured).push invoked)

namespace ScopePath

/-- A path of pairs, followed by a scope that a `lambda` form created. -/
def Captured (entries : List Entry) (path : ScopePath) : Prop :=
  ∃ (outer : ScopePath) (id : Int),
    path = outer.push id ∧ outer.Paired entries ∧ .created .lambda id ∈ entries

variable {entries later : List Entry} {path : ScopePath}

theorem Paired.mono (paired : path.Paired entries) (subset : entries ⊆ later) : path.Paired later := by
  induction paired with
  | top => exact .top
  | call _ isCaptured isInvoked ih => exact .call ih (subset isCaptured) (subset isInvoked)

theorem Captured.mono (captured : path.Captured entries) (subset : entries ⊆ later) :
    path.Captured later := by
  obtain ⟨outer, id, rfl, paired, created⟩ := captured
  exact ⟨outer, id, rfl, paired.mono subset, subset created⟩

theorem Captured.call (captured : path.Captured entries) {id : Int}
    (created : .created .call id ∈ entries) : (path.push id).Paired entries := by
  obtain ⟨outer, own, rfl, paired, isCaptured⟩ := captured
  exact .call paired isCaptured created

/-- The innermost scope of a path of pairs is the top level or that of a call. -/
theorem Paired.current (paired : path.Paired entries) :
    path.current = topId ∨ .created .call path.current ∈ entries := by
  cases paired with
  | top => exact .inl rfl
  | call _ _ isInvoked => exact .inr isInvoked

end ScopePath

/-! ### Regular records -/

/-- A readable value, a built-in, or a closure with a readable body that captured a path of pairs and
a scope of its own. -/
def Value.Linked (entries : List Entry) : Value → Prop
  | .builtin _ => True
  | .lambda _ body path => body.isReadable ∧ path.Captured entries
  | value => value.isReadable

theorem Value.Linked.mono {entries later : List Entry} {value : Value} (linked : value.Linked entries)
    (subset : entries ⊆ later) : value.Linked later := by
  cases value with
  | lambda params body path => exact ⟨linked.1, linked.2.mono subset⟩
  | _ => exact linked

theorem Value.linked_of_isReadable {value : Value} (entries : List Entry) (readable : value.isReadable) :
    value.Linked entries := by
  cases value with
  | builtin tag => trivial
  | lambda params body path => cases readable
  | _ => exact readable

theorem Scope.mem_of_get?_ofBindings {bindings : List (String × Value)} {name : String} {value : Value}
    (found : (ofBindings bindings).get? name = some value) : (name, value) ∈ bindings := by
  obtain ⟨index, -, bound⟩ := get?_ofBindings_iff.mp found
  exact List.mem_of_getElem? bound

namespace Trace

/-- The scope of a call, which binds the parameters of the closure that was applied last. -/
def argumentScope : List Entry → Scope
  | .applied (.closure procedure) arguments :: _ => .ofBindings (procedure.params.zip arguments)
  | _ => .empty

end Trace

open Trace (argumentScope)

/-- What an entry did to the store. -/
def Entry.redo (earlier : List Entry) (store : ScopeStore) : Entry → ScopeStore
  | .created .lambda _ => (store.add .empty).2
  | .created .call _ => (store.add (argumentScope earlier)).2
  | .bound id name value => store.bindAt id.toNat name value
  | .begun _ _ _ | .returned _ | .applied _ _ => store

namespace Trace

/-- The store that a record leads to. -/
def replay : List Entry → ScopeStore
  | [] => .initial
  | entry :: earlier => entry.redo earlier (replay earlier)

end Trace

open Trace (replay)

/-- An entry that fits the entries before it. -/
def Entry.Regular (earlier : List Entry) : Entry → Prop
  | .begun _ path size => path.Paired earlier ∧ size = (replay earlier).size
  | .returned value => value = .void ∨ value.Linked earlier
  | .created _ id => id = (replay earlier).size
  | .bound id _ value =>
    (id = ScopePath.topId ∨ .created .call id ∈ earlier) ∧ value.Linked earlier
  | .applied callable arguments =>
    callable.toValue.Linked earlier ∧ ∀ argument ∈ arguments, argument.Linked earlier

namespace Trace

/-- Each entry fits those before it. -/
def Regular : List Entry → Prop
  | [] => True
  | entry :: earlier => entry.Regular earlier ∧ Regular earlier

namespace Regular

variable {entries earlier : List Entry} {id : Int}

theorem of_suffix (regular : Regular entries) (before : earlier <:+ entries) : Regular earlier := by
  induction entries with
  | nil => rwa [List.suffix_nil.mp before]
  | cons entry rest ih =>
      rcases List.suffix_cons_iff.mp before with rfl | inside
      · exact regular
      · exact ih regular.2 inside

theorem of_mem (regular : Regular entries) {entry : Entry} (member : entry ∈ entries) :
    ∃ earlier, earlier <:+ entries ∧ entry.Regular earlier := by
  obtain ⟨newer, earlier, rfl⟩ := List.append_of_mem member
  have here := regular.of_suffix (List.suffix_append newer (entry :: earlier))
  exact ⟨earlier, (List.suffix_cons entry earlier).trans (List.suffix_append _ _), here.1⟩

/-! ### The scopes of a regular record -/

theorem size_le_redo (entry : Entry) (earlier : List Entry) (store : ScopeStore) :
    store.size ≤ (entry.redo earlier store).size := by
  cases entry with
  | created origin id => cases origin <;> exact (ScopeStore.size_add _ _).symm ▸ Nat.le_succ _
  | bound id name value => exact (ScopeStore.size_bindAt _ _ _ _).ge
  | begun | returned | applied => exact le_rfl

theorem size_created (origin : Origin) (id : Int) (earlier : List Entry) :
    (replay (.created origin id :: earlier)).size = (replay earlier).size + 1 := by
  cases origin <;> exact ScopeStore.size_add _ _

/-- A scope that was created lies between the top level and the scopes to come. -/
theorem bounds (regular : Regular entries) {origin : Origin} (member : .created origin id ∈ entries) :
    0 < id ∧ id < (replay entries).size := by
  induction entries with
  | nil => exact absurd member List.not_mem_nil
  | cons entry earlier ih =>
      rcases List.mem_cons.mp member with rfl | older
      · have place : id = (replay earlier).size := regular.1
        have positive : 0 < (replay earlier).size := (replay earlier).size_pos
        rw [size_created]
        omega
      · have inside := ih regular.2 older
        have grown : (replay earlier).size ≤ (replay (entry :: earlier)).size :=
          size_le_redo entry earlier (replay earlier)
        omega

/-- No scope is created twice. -/
theorem not_call (regular : Regular entries) (captured : .created .lambda id ∈ entries) :
    .created .call id ∉ entries := by
  induction entries with
  | nil => exact absurd captured List.not_mem_nil
  | cons entry earlier ih =>
      intro invoked
      -- a scope that was just created has a number that no older one has
      rcases List.mem_cons.mp captured with rfl | older
      · have older := (List.mem_cons.mp invoked).resolve_left (by nofun)
        exact (regular.2.bounds older).2.ne regular.1
      · rcases List.mem_cons.mp invoked with rfl | olderToo
        · exact (regular.2.bounds older).2.ne regular.1
        · exact ih regular.2 older olderToo

theorem bound_target (regular : Regular entries) {name : String} {value : Value}
    (member : .bound id name value ∈ entries) :
    id = ScopePath.topId ∨ .created .call id ∈ entries := by
  obtain ⟨earlier, before, target, -⟩ := regular.of_mem member
  exact target.imp_right fun invoked => before.subset invoked

/-- **Nothing is bound in a captured scope.** -/
theorem unbound (regular : Regular entries) (captured : .created .lambda id ∈ entries) (name : String)
    (value : Value) : .bound id name value ∉ entries := by
  intro member
  rcases regular.bound_target member with top | invoked
  · exact (regular.bounds captured).1.ne top.symm
  · exact regular.not_call captured invoked

/-- **Captured scopes are empty.** -/
theorem empty (regular : Regular entries) (captured : .created .lambda id ∈ entries) :
    (replay entries).scope? id = some .empty := by
  induction entries with
  | nil => exact absurd captured List.not_mem_nil
  | cons entry earlier ih =>
      rcases List.mem_cons.mp captured with rfl | older
      · have place : id = (replay earlier).size := regular.1
        exact (ScopeStore.scope?_add _ _ _).trans (if_pos place)
      · have kept := ih regular.2 older
        have known := regular.2.bounds older
        cases entry with
        | created origin new =>
            have other : id ≠ (replay earlier).size := known.2.ne
            cases origin <;> exact (ScopeStore.scope?_add _ _ _).trans ((if_neg other).trans kept)
        | bound target name value =>
            have other : id ≠ target.toNat := by
              rcases regular.1.1 with rfl | invoked
              · exact known.1.ne'
              · rw [Int.toNat_of_nonneg (regular.2.bounds invoked).1.le]
                rintro rfl
                exact regular.2.not_call older invoked
            exact (ScopeStore.scope?_bindAt _ _ _ _ _).trans ((if_neg other).trans kept)
        | begun | returned | applied => exact kept

/-! ### The values of a regular record -/

theorem linked_argumentScope (regular : Regular entries) {name : String} {value : Value}
    (bound : (argumentScope entries).get? name = some value) : value.Linked entries := by
  unfold argumentScope at bound
  split at bound
  · have member := (List.of_mem_zip (Scope.mem_of_get?_ofBindings bound)).2
    exact (regular.1.2 value member).mono (List.subset_cons_self _ _)
  · cases bound

/-- Whatever is bound was linked when it was bound. -/
theorem linked_store (regular : Regular entries) {scope : Scope} {name : String} {value : Value}
    (found : (replay entries).scope? id = some scope) (bound : scope.get? name = some value) :
    value.Linked entries := by
  induction entries generalizing scope with
  | nil =>
      rw [ScopeStore.eq_empty_of_initial found] at bound
      cases bound
  | cons entry earlier ih =>
      have more : earlier ⊆ entry :: earlier := List.subset_cons_self _ _
      cases entry with
      | created origin new =>
          cases origin with
          | lambda =>
              rw [replay, Entry.redo, ScopeStore.scope?_add] at found
              split at found
              · cases found
                cases bound
              · exact (ih regular.2 found bound).mono more
          | call =>
              rw [replay, Entry.redo, ScopeStore.scope?_add] at found
              split at found
              · cases found
                exact (regular.2.linked_argumentScope bound).mono more
              · exact (ih regular.2 found bound).mono more
      | bound target other given =>
          rw [replay, Entry.redo, ScopeStore.scope?_bindAt] at found
          split at found
          · obtain ⟨old, foundOld, rfl⟩ := Option.map_eq_some_iff.mp found
            rw [Scope.get?_define] at bound
            split at bound
            · cases bound
              exact regular.1.2.mono more
            · exact (ih regular.2 foundOld bound).mono more
          · exact (ih regular.2 found bound).mono more
      | begun | returned | applied => exact (ih regular.2 found bound).mono more

theorem linked_resolves (regular : Regular entries) {name : String} {ids : List Int} {value : Value}
    (resolves : Resolves (replay entries) name ids value) : value.Linked entries := by
  induction resolves with
  | here found bound => exact regular.linked_store found bound
  | further _ _ _ ih => exact ih

end Regular

/-! ### Without the captured scopes -/

/-- The scopes that `lambda` forms created. -/
def captured (entries : List Entry) : List Int :=
  entries.filterMap fun
    | .created .lambda id => some id
    | _ => none

theorem mem_captured {entries : List Entry} {id : Int} :
    id ∈ captured entries ↔ .created .lambda id ∈ entries := by
  rw [captured, List.mem_filterMap]
  constructor
  · rintro ⟨entry, member, found⟩
    split at found
    · cases found
      exact member
    · cases found
  · exact fun member => ⟨_, member, rfl⟩

end Trace

/-- The path without some scopes below the top level. -/
def ScopePath.without (ids : List Int) (path : ScopePath) : ScopePath :=
  ⟨path.inner.filter (· ∉ ids)⟩

/-- Empty scopes play no part in a look-up. -/
theorem ScopeStore.resolve_without {store : ScopeStore} {ids : List Int}
    (empty : ∀ id ∈ ids, store.scope? id = some .empty) (path : ScopePath) (name : String) :
    store.resolve (path.without ids) name = store.resolve path name := by
  obtain ⟨inner⟩ := path
  show store.resolveIn name (inner.filter (· ∉ ids) ++ [ScopePath.topId])
    = store.resolveIn name (inner ++ [ScopePath.topId])
  induction inner with
  | nil => rfl
  | cons id outer ih =>
      by_cases listed : id ∈ ids
      · rw [List.filter_cons_of_neg (by simpa using listed), ih, List.cons_append, resolveIn,
          empty id listed]
        rfl
      · rw [List.filter_cons_of_pos (by simpa using listed), List.cons_append, List.cons_append,
          resolveIn, resolveIn, ih]

/-- **Captured scopes can be left out of any path.** -/
theorem Trace.Regular.resolve_without {entries : List Entry} (regular : Trace.Regular entries)
    (path : ScopePath) (name : String) :
    (replay entries).resolve (path.without (Trace.captured entries)) name
      = (replay entries).resolve path name :=
  ScopeStore.resolve_without (fun _ member => regular.empty (Trace.mem_captured.mp member)) path name

end SmallLisp
