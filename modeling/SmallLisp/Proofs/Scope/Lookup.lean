/-
**Names along a path.**

A lookup goes through the scopes of a path from the inside out. At each id it finds no scope, a scope that
lacks the name, or a scope that binds it (`held?`), and it goes on only past scopes that lack the name:

* `resolveIn_append`: the outer part of a path matters exactly if every scope of the inner part lacks the
  name;
* `resolve_eq_some_iff`, `resolve_eq_error_iff`, `resolve_eq_none_iff`: where a lookup ends, by the position
  on the path;
* `resolve_of_exposes`, `resolve_of_not_exposes`: after a definition a lookup finds the new value if nothing
  further in hides it, and otherwise it ends as it did before.
-/

import SmallLisp.Eval.World
import SmallLisp.Proofs.Scope.Bindings

namespace SmallLisp.ScopeStore

variable {store later : ScopeStore} {path : ScopePath} {id : Int} {name : String} {value : Value}

/-! ### One scope -/

/-- What the scope `id` holds for a name; nothing if there is no such scope. -/
def held? (store : ScopeStore) (id : Int) (name : String) : Option (Option Value) :=
  (store.scope? id).map (·.get? name)

/-- There is a scope `id`, and it binds the name to the value. -/
def Binds (store : ScopeStore) (id : Int) (name : String) (value : Value) : Prop :=
  store.held? id name = some (some value)

/-- There is a scope `id`, and it does not bind the name. -/
def Lacks (store : ScopeStore) (id : Int) (name : String) : Prop := store.held? id name = some none

theorem contains_iff_held? (name : String) : store.contains id ↔ store.held? id name ≠ none := by
  rw [contains_eq_isSome, held?, Option.isSome_iff_ne_none]
  exact not_congr Option.map_eq_none_iff.symm

theorem lacks_iff :
    store.Lacks id name ↔ store.contains id ∧ ∀ value, ¬ store.Binds id name value := by
  unfold Lacks Binds
  rw [contains_iff_held? name]
  cases store.held? id name with
  | none => simp
  | some held => cases held <;> simp

/-! ### Lookups in a row of scopes -/

theorem resolveIn_cons (store : ScopeStore) (name : String) (id : Int) (ids : List Int) :
    store.resolveIn name (id :: ids) =
      match store.held? id name with
      | none => .error (.noScope id)
      | some none => store.resolveIn name ids
      | some (some value) => .ok (some value) := by
  rw [resolveIn, held?]
  cases store.scope? id with
  | none => rfl
  | some scope =>
      simp only [Option.map_some]
      cases scope.get? name <;> rfl

/-- **The outer scopes are looked at if the inner ones say nothing**, and only then. -/
theorem resolveIn_append (store : ScopeStore) (name : String) (inner outer : List Int) :
    store.resolveIn name (inner ++ outer) =
      match store.resolveIn name inner with
      | .ok none => store.resolveIn name outer
      | ended => ended := by
  induction inner with
  | nil => rfl
  | cons id inner ih =>
      rw [List.cons_append, resolveIn_cons, resolveIn_cons, ih]
      cases store.held? id name with
      | none => rfl
      | some held => cases held <;> rfl

theorem resolveIn_append_of_ends {inner : List Int} (ends : store.resolveIn name inner ≠ .ok none)
    (outer : List Int) : store.resolveIn name (inner ++ outer) = store.resolveIn name inner := by
  rw [resolveIn_append]
  split
  · rename_i silent
    exact absurd silent ends
  · rfl

theorem resolveIn_eq_none_iff {ids : List Int} :
    store.resolveIn name ids = .ok none ↔ ∀ id ∈ ids, store.Lacks id name := by
  induction ids with
  | nil => simp [resolveIn]
  | cons id ids ih =>
      rw [resolveIn_cons, List.forall_mem_cons, ← ih, Lacks]
      cases store.held? id name with
      | none => simp
      | some held => cases held <;> simp

/-- **A lookup ends at the first scope that does not lack the name**, as it would in that scope alone. -/
theorem resolveIn_eq_iff {ids : List Int} {result : Except Fault (Option Value)}
    (ends : result ≠ .ok none) :
    store.resolveIn name ids = result ↔
      ∃ inner id outer, ids = inner ++ id :: outer ∧ (∀ other ∈ inner, store.Lacks other name) ∧
        store.resolveIn name [id] = result := by
  constructor
  · intro found
    induction ids with
    | nil => exact absurd found.symm ends
    | cons id ids ih =>
        change store.resolveIn name ([id] ++ ids) = result at found
        by_cases lacking : store.Lacks id name
        · have silent := resolveIn_eq_none_iff.mpr (List.forall_mem_singleton.mpr lacking)
          rw [resolveIn_append, silent] at found
          obtain ⟨inner, here, outer, rfl, others, ended⟩ := ih found
          exact ⟨id :: inner, here, outer, rfl, List.forall_mem_cons.mpr ⟨lacking, others⟩, ended⟩
        · have heard : store.resolveIn name [id] ≠ .ok none := fun silent =>
            lacking (resolveIn_eq_none_iff.mp silent id List.mem_cons_self)
          rw [resolveIn_append_of_ends heard] at found
          exact ⟨[], id, ids, rfl, fun _ member => absurd member List.not_mem_nil, found⟩
  · rintro ⟨inner, id, outer, rfl, lacking, ended⟩
    rw [resolveIn_append, resolveIn_eq_none_iff.mpr lacking]
    have heard : store.resolveIn name [id] ≠ .ok none := by rwa [ended]
    exact (resolveIn_append_of_ends heard outer).trans ended

theorem resolveIn_singleton_some_iff :
    store.resolveIn name [id] = .ok (some value) ↔ store.Binds id name value := by
  rw [resolveIn_cons, Binds]
  cases store.held? id name with
  | none => simp
  | some held => cases held <;> simp [resolveIn]

theorem resolveIn_singleton_error_iff {fault : Fault} :
    store.resolveIn name [id] = .error fault ↔ ¬ store.contains id ∧ fault = .noScope id := by
  rw [resolveIn_cons, contains_iff_held? name]
  cases store.held? id name with
  | none => simp [eq_comm]
  | some held => cases held <;> simp [resolveIn]

/-- A lookup depends on what the scopes in the row hold for the name, and on nothing else. -/
theorem resolveIn_congr {ids : List Int}
    (same : ∀ id ∈ ids, later.held? id name = store.held? id name) :
    later.resolveIn name ids = store.resolveIn name ids := by
  induction ids with
  | nil => rfl
  | cons id ids ih =>
      obtain ⟨here, others⟩ := List.forall_mem_cons.mp same
      rw [resolveIn_cons, resolveIn_cons, here, ih others]

/-! ### Lookups along a path -/

theorem resolve_eq_iff {result : Except Fault (Option Value)} (ends : result ≠ .ok none) :
    store.resolve path name = result ↔
      ∃ outer id inner, path.ids = outer ++ id :: inner ∧ (∀ other ∈ inner, store.Lacks other name) ∧
        store.resolveIn name [id] = result := by
  rw [resolve, path.innermostFirst_eq_reverse, resolveIn_eq_iff ends]
  constructor
  · rintro ⟨inner, id, outer, split, lacking, ended⟩
    refine ⟨outer.reverse, id, inner.reverse, ?_, by simpa using lacking, ended⟩
    simpa using congrArg List.reverse split
  · rintro ⟨outer, id, inner, split, lacking, ended⟩
    exact ⟨inner.reverse, id, outer.reverse, by simp [split], by simpa using lacking, ended⟩

/-- **A lookup finds the innermost binding**, if every position further in has a scope. -/
theorem resolve_eq_some_iff :
    store.resolve path name = .ok (some value) ↔
      ∃ outer id inner, path.ids = outer ++ id :: inner ∧ store.Binds id name value ∧
        ∀ other ∈ inner, store.Lacks other name := by
  simp only [resolve_eq_iff (show Except.ok (some value) ≠ .ok none by nofun),
    resolveIn_singleton_some_iff, and_comm]

/-- **A lookup fails at the innermost id without a scope**, if no position further in binds the name. -/
theorem resolve_eq_error_iff {fault : Fault} :
    store.resolve path name = .error fault ↔
      ∃ outer id inner, path.ids = outer ++ id :: inner ∧ (¬ store.contains id ∧ fault = .noScope id) ∧
        ∀ other ∈ inner, store.Lacks other name := by
  simp only [resolve_eq_iff (show Except.error fault ≠ .ok none by nofun),
    resolveIn_singleton_error_iff, and_comm]

theorem resolve_eq_none_iff :
    store.resolve path name = .ok none ↔ ∀ id ∈ path.ids, store.Lacks id name := by
  rw [resolve, path.innermostFirst_eq_reverse, resolveIn_eq_none_iff]
  simp only [List.mem_reverse]

/-! ### Lookups after a definition -/

theorem define_eq_ok_iff :
    store.define id name value = .ok later ↔
      store.contains id ∧ later = store.bindAt id.toNat name value := by
  unfold define
  by_cases known : store.contains id
  · rw [if_pos known, Except.ok.injEq, and_iff_right known, eq_comm]
  · rw [if_neg known]
    exact ⟨nofun, fun ⟨found, _⟩ => absurd found known⟩

/-- **A definition changes one thing**: what its scope holds for its name. -/
theorem held?_define (defined : store.define id name value = .ok later) (other : Int) (sought : String) :
    later.held? other sought =
      if other = id ∧ sought = name then some (some value) else store.held? other sought := by
  obtain ⟨known, rfl⟩ := define_eq_ok_iff.mp defined
  have index : (id.toNat : Int) = id := Int.toNat_of_nonneg (contains_iff.mp known).1
  rw [held?, scope?_bindAt, index]
  by_cases here : other = id
  · subst here
    obtain ⟨scope, found⟩ := exists_scope? known
    by_cases same : sought = name
    · simp [found, same]
    · simp [held?, found, same]
  · simp [held?, here]

/-- A binding in the scope `id` can be seen along a path: the scope is on the path, and no scope further in
than its innermost position binds the name. -/
def Exposes (store : ScopeStore) (path : ScopePath) (id : Int) (name : String) : Prop :=
  ∃ outer inner, path.ids = outer ++ id :: inner ∧ id ∉ inner ∧
    ∀ other ∈ inner, ∀ value, ¬ store.Binds other name value

theorem resolve_of_exposes (defined : store.define id name value = .ok later)
    (known : ∀ other ∈ path.ids, store.contains other) (exposes : store.Exposes path id name) :
    later.resolve path name = .ok (some value) := by
  obtain ⟨outer, inner, split, absent, free⟩ := exposes
  refine resolve_eq_some_iff.mpr ⟨outer, id, inner, split, ?_, fun other member => ?_⟩
  · rw [Binds, held?_define defined, if_pos ⟨rfl, rfl⟩]
  · have elsewhere : ¬ (other = id ∧ name = name) := fun ⟨same, _⟩ => absent (same ▸ member)
    rw [Lacks, held?_define defined, if_neg elsewhere]
    exact lacks_iff.mpr ⟨known other (by simp [split, member]), free other member⟩

theorem resolve_of_not_exposes (defined : store.define id name value = .ok later) {sought : String}
    (hidden : ¬ (sought = name ∧ store.Exposes path id name)) :
    later.resolve path sought = store.resolve path sought := by
  have kept : ∀ ids : List Int, (sought = name → id ∉ ids) →
      later.resolveIn sought ids = store.resolveIn sought ids := by
    intro ids absent
    refine resolveIn_congr fun other member => ?_
    rw [held?_define defined, if_neg]
    rintro ⟨rfl, same⟩
    exact absent same member
  by_cases onPath : sought = name ∧ id ∈ path.innermostFirst
  · obtain ⟨rfl, member⟩ := onPath
    obtain ⟨inner, outer, split, absent⟩ := List.eq_append_cons_of_mem member
    -- Something further in binds the name, so that neither lookup gets as far as the changed scope.
    have heard : store.resolveIn sought inner ≠ .ok none := by
      intro silent
      refine hidden ⟨rfl, outer.reverse, inner.reverse, ?_, by simpa using absent, ?_⟩
      · rw [path.innermostFirst_eq_reverse] at split
        simpa using congrArg List.reverse split
      · intro other inside
        have lacks := resolveIn_eq_none_iff.mp silent other (List.mem_reverse.mp inside)
        exact (lacks_iff.mp lacks).2
    have same := kept inner fun _ => absent
    rw [resolve, resolve, split, resolveIn_append_of_ends heard,
      resolveIn_append_of_ends (by rwa [same]), same]
  · exact kept _ fun same member => onPath ⟨same, member⟩

/-! ### The law of the scope chain -/

/-- **Lookups and definitions obey the chain of scopes.** Along every path, whatever its ids, a lookup finds
the value at the innermost position that binds the name if all positions further in have a scope; it fails at
the innermost id without a scope if no position further in binds the name; and it finds nothing if all ids
have scopes and none binds the name. In a store that never binds `void`, what is found is a value. Along a
path whose ids all have scopes, a definition shows in a lookup of its name if its scope is on the path and
nothing further in hides it, and every other lookup ends as before. A definition in a scope that does not
exist fails and changes nothing. -/
theorem scope_chain_law (store : ScopeStore) :
    (∀ (path : ScopePath) (name : String),
      (∀ value, store.resolve path name = .ok (some value) ↔
        ∃ outer id inner, path.ids = outer ++ id :: inner ∧ store.Binds id name value ∧
          ∀ other ∈ inner, store.Lacks other name) ∧
      (∀ fault, store.resolve path name = .error fault ↔
        ∃ outer id inner, path.ids = outer ++ id :: inner ∧
          (¬ store.contains id ∧ fault = .noScope id) ∧ ∀ other ∈ inner, store.Lacks other name) ∧
      (store.resolve path name = .ok none ↔ ∀ id ∈ path.ids, store.Lacks id name) ∧
      (store.Each (· ≠ .void) → store.resolve path name ≠ .ok (some .void))) ∧
    ∀ (id : Int) (name : String) (value : Value),
      (store.contains id → ∃ later, store.define id name value = .ok later ∧
        ∀ path : ScopePath, (∀ other ∈ path.ids, store.contains other) → ∀ sought,
          (sought = name ∧ store.Exposes path id name →
            later.resolve path sought = .ok (some value)) ∧
          (¬ (sought = name ∧ store.Exposes path id name) →
            later.resolve path sought = store.resolve path sought)) ∧
      (¬ store.contains id → store.define id name value = .error (.noScope id) ∧
        ∀ output, EvalM.define id name value ⟨store, output⟩
          = .error (.noScope id) ⟨store, output⟩) := by
  refine ⟨fun path name => ⟨fun value => resolve_eq_some_iff, fun fault => resolve_eq_error_iff,
    resolve_eq_none_iff, fun each found => each.resolve found rfl⟩, fun id name value => ⟨?_, ?_⟩⟩
  · intro known
    have defined : store.define id name value = .ok _ := define_eq_ok_iff.mpr ⟨known, rfl⟩
    refine ⟨_, defined, fun path allocated sought => ⟨?_, resolve_of_not_exposes defined⟩⟩
    rintro ⟨rfl, exposes⟩
    exact resolve_of_exposes defined allocated exposes
  · intro unknown
    have refused : store.define id name value = .error (.noScope id) := if_neg unknown
    refine ⟨refused, fun output => ?_⟩
    rw [EvalM.define_apply, refused]

/-- Scope `7` does not exist, which the binding of `x` in scope `2` masks and a lookup of `y` brings to
light; nothing can be defined there. A definition of `x` in scope `1` is hidden by scope `2`, which
stands on the path on both sides of it; one in scope `2` is seen. -/
theorem scope_chain_law_masked :
    let store : ScopeStore := ⟨#[⟨[("x", .int 0)]⟩, .empty, ⟨[("x", .int 2)]⟩], by decide⟩
    let twice : ScopePath := ⟨[2, 1, 2]⟩
    store.resolve ⟨[2, 7]⟩ "x" = .ok (some (.int 2)) ∧
      store.resolve ⟨[2, 7]⟩ "y" = .error (.noScope 7) ∧
      store.resolve ⟨[2, 7]⟩ "x" ≠ .ok (some .void) ∧
      store.define 7 "x" (.int 5) = .error (.noScope 7) ∧
      (∃ later, store.define 1 "x" (.int 5) = .ok later ∧
        later.resolve twice "x" = store.resolve twice "x") ∧
      ∃ later, store.define 2 "x" (.int 5) = .ok later ∧
        later.resolve twice "x" = .ok (some (.int 5)) := by
  intro store twice
  obtain ⟨lookups, definitions⟩ := scope_chain_law store
  have allocated : ∀ other ∈ twice.ids, store.contains other := by decide
  have plain : store.Each (· ≠ .void) := by
    have each : ∀ scope ∈ store.scopes, ∀ binding ∈ scope.bindings, binding.2 ≠ .void := by decide
    exact fun id scope found => each scope (mem_of_scope? found)
  refine ⟨?_, ?_, (lookups _ _).2.2.2 plain, ((definitions 7 "x" (.int 5)).2 (by decide)).1, ?_, ?_⟩
  · exact ((lookups ⟨[2, 7]⟩ "x").1 _).mpr ⟨[0, 7], 2, [], rfl, rfl, by simp⟩
  · refine ((lookups ⟨[2, 7]⟩ "y").2.1 _).mpr ⟨[0], 7, [2], rfl, ⟨by decide, rfl⟩, ?_⟩
    exact List.forall_mem_singleton.mpr rfl
  · obtain ⟨later, defined, looked⟩ := (definitions 1 "x" (.int 5)).1 (by decide)
    refine ⟨later, defined, (looked twice allocated "x").2 ?_⟩
    rintro ⟨-, outer, inner, split, -, free⟩
    have turned : [2, 1, 2, 0] = (outer ++ 1 :: inner).reverse := congrArg List.reverse split
    rw [List.reverse_append, List.reverse_cons, List.append_assoc] at turned
    have further : 2 ∈ inner := by
      rw [← List.mem_reverse]
      cases shape : inner.reverse with
      | nil =>
          rw [shape] at turned
          cases turned
      | cons last others =>
          rw [shape, List.cons_append, List.cons.injEq] at turned
          rw [turned.1]
          exact List.mem_cons_self
    exact free 2 further (.int 2) rfl
  · obtain ⟨later, defined, looked⟩ := (definitions 2 "x" (.int 5)).1 (by decide)
    refine ⟨later, defined, (looked twice allocated "x").1 ⟨rfl, [0, 2, 1], [], rfl, ?_⟩⟩
    simp

end SmallLisp.ScopeStore
