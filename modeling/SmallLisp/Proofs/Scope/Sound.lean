/-
**Values and stores that evaluation keeps in order.**

A value is *sound* while there are `size` scopes if it is readable, or a built-in, or a closure with
readable parameters and body that captured a valid path: one that starts at the top level, whose ids
increase strictly, and each of whose ids names a scope. A store is sound if all its bindings are.

* `Valid.push`: a path stays valid under the scope that was created last, and only under that one is
  it certain to increase;
* `resolve_of_valid`: along a valid path no lookup fails, and what it finds in a sound store is
  sound.
-/

import Mathlib.Order.Lattice
import SmallLisp.Proofs.Reader.Literal
import SmallLisp.Proofs.Scope.Lookup

namespace SmallLisp

/-! ### Paths -/

/-- A path in order while there are `size` scopes. -/
structure ScopePath.Valid (size : Nat) (path : ScopePath) : Prop where
  fromTop : path.ids.head? = some topId
  increasing : path.ids.Pairwise (· < ·)
  allocated : ∀ id ∈ path.ids, 0 ≤ id ∧ id < size

namespace ScopePath

theorem valid_top {size : Nat} (pos : 0 < size) : top.Valid size where
  fromTop := rfl
  increasing := List.pairwise_singleton _ _
  allocated id member := by
    rw [ids_top, List.mem_singleton] at member
    subst member
    exact ⟨le_rfl, Int.natCast_pos.mpr pos⟩

theorem Valid.mono {size larger : Nat} {path : ScopePath} (valid : path.Valid size)
    (le : size ≤ larger) : path.Valid larger where
  fromTop := valid.fromTop
  increasing := valid.increasing
  allocated id member := by
    have bounds := valid.allocated id member
    omega

/-- A new scope has a greater id than all scopes before it. -/
theorem Valid.push {size : Nat} {path : ScopePath} (valid : path.Valid size) :
    (path.push size).Valid (size + 1) where
  fromTop := rfl
  increasing := by
    rw [ids_push, List.pairwise_append]
    refine ⟨valid.increasing, List.pairwise_singleton _ _, fun id member last isLast => ?_⟩
    rw [List.mem_singleton] at isLast
    subst isLast
    exact (valid.allocated id member).2
  allocated id member := by
    rw [ids_push, List.mem_append, List.mem_singleton] at member
    rcases member with old | rfl
    · have bounds := valid.allocated id old
      omega
    · omega

end ScopePath

/-! ### Values -/

/-- A value in order while there are `size` scopes. -/
def Value.Sound (size : Nat) : Value → Prop
  | .builtin _ => True
  | .lambda params body path =>
    (∀ param ∈ params, (Value.sym param).isReadable) ∧ body.isReadable ∧ path.Valid size
  | value => value.isReadable

namespace Value

theorem sound_of_isReadable {value : Value} (size : Nat) (readable : value.isReadable) :
    value.Sound size := by
  cases value with
  | builtin tag => trivial
  | lambda params body path => cases readable
  | _ => exact readable

theorem Sound.mono {size larger : Nat} {value : Value} (sound : value.Sound size)
    (le : size ≤ larger) : value.Sound larger := by
  cases value with
  | lambda params body path => exact ⟨sound.1, sound.2.1, sound.2.2.mono le⟩
  | _ => exact sound

/-- A sound value that is no function is readable. -/
theorem Sound.isReadable {size : Nat} {value : Value} (sound : value.Sound size)
    (plain : value.isFunction = false) : value.isReadable := by
  cases value with
  | builtin | lambda => cases plain
  | _ => exact sound

end Value

/-! ### Scopes and stores -/

/-- Every binding of a scope is sound. -/
def Scope.Sound (size : Nat) (scope : Scope) : Prop :=
  ∀ binding ∈ scope.bindings, binding.2.Sound size

namespace Scope

variable {size : Nat}

theorem Sound.mono {larger : Nat} {scope : Scope} (sound : scope.Sound size)
    (le : size ≤ larger) : scope.Sound larger :=
  fun binding member => (sound binding member).mono le

theorem Sound.define {scope : Scope} {value : Value} (sound : scope.Sound size)
    (bound : value.Sound size) (name : String) : (scope.define name value).Sound size :=
  Each.define sound bound name

theorem sound_empty : empty.Sound size := each_empty

theorem sound_ofBindings {bindings : List (String × Value)}
    (each : ∀ binding ∈ bindings, binding.2.Sound size) : (ofBindings bindings).Sound size :=
  each_ofBindings each

end Scope

/-- Every binding in a store is sound for the number of its scopes. -/
def ScopeStore.Sound (store : ScopeStore) : Prop :=
  ∀ id scope, store.scope? id = some scope → scope.Sound store.size

namespace ScopeStore

theorem sound_initial : initial.Sound := each_initial

variable {store : ScopeStore}

theorem Sound.add (sound : store.Sound) {scope : Scope} (new : scope.Sound store.size) :
    (store.add scope).2.Sound := by
  have le : store.size ≤ (store.add scope).2.size := by
    rw [size_add]
    exact Nat.le_succ _
  have older : store.Each (Value.Sound (store.add scope).2.size) :=
    Each.mono sound fun _ known => known.mono le
  exact older.add (new.mono le)

theorem Sound.bindAt (sound : store.Sound) {value : Value} (bound : value.Sound store.size)
    (index : Nat) (name : String) : (store.bindAt index name value).Sound := by
  intro id scope found
  rw [size_bindAt]
  exact Each.bindAt sound bound index name id scope found

/-- **Lookups along a valid path succeed**, with a sound value if there is a binding. -/
theorem resolve_of_valid (sound : store.Sound) {path : ScopePath} (valid : path.Valid store.size)
    (name : String) :
    ∃ found, store.resolve path name = .ok found ∧ ∀ value ∈ found, value.Sound store.size := by
  cases resolved : store.resolve path name with
  | error fault =>
      obtain ⟨outer, id, inner, split, ⟨unknown, -⟩, -⟩ := resolve_eq_error_iff.mp resolved
      have onPath : id ∈ path.ids := by simp [split]
      exact absurd (contains_iff.mpr (valid.allocated id onPath)) unknown
  | ok found =>
      refine ⟨found, rfl, fun value member => ?_⟩
      cases member
      exact Each.resolve sound resolved

end ScopeStore

end SmallLisp
