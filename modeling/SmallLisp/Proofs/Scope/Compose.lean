/-
**Renamings one after the other.**

If a first store corresponds to a second and the second to a third, the first corresponds to the third
(`Stores.comp`). A scope of the first store takes part only if both renamings cover it; that is
enough, because a closure that the first renaming takes to the second store is covered there.

* `Renaming.ofPerm`: a permutation of all numbers, on the scopes of a store;
* `Scope.Sound.binds`: a sound scope corresponds to itself under a renaming that leaves the scopes its
  closures captured where they are;
* `ScopeStore.Sound.stores`: so does a sound store.
-/

import Mathlib.Logic.Equiv.Basic
import SmallLisp.Proofs.Scope.Rename
import SmallLisp.Proofs.Scope.Sound

namespace SmallLisp

/-! ### Renaming twice -/

theorem ScopePath.rename_rename (map again : Int → Int) (path : ScopePath) :
    (path.rename map).rename again = path.rename (again ∘ map) :=
  congrArg ScopePath.mk List.map_map

theorem ScopePath.Within.comp {ids others : Set Int} {map : Int → Int} (top : map topId = topId)
    {path : ScopePath} (within : path.Within ids) (renamed : (path.rename map).Within others) :
    path.Within {id | id ∈ ids ∧ map id ∈ others} := by
  intro id member
  refine ⟨within id member, renamed (map id) ?_⟩
  rcases List.mem_cons.mp member with rfl | inner
  · rw [top]
    exact List.mem_cons_self
  · refine List.mem_cons_of_mem _ (List.mem_reverse.mpr (List.mem_map_of_mem ?_))
    exact List.mem_reverse.mp inner

namespace Value

theorem rename_rename (map again : Int → Int) (value : Value) :
    (value.rename map).rename again = value.rename (again ∘ map) := by
  induction value with
  | pair first rest ihFirst ihRest => simp only [rename, ihFirst, ihRest]
  | lambda params body path ih => simp only [rename, ih, ScopePath.rename_rename]
  | _ => rfl

theorem Within.comp {ids others : Set Int} {map : Int → Int}
    (top : map ScopePath.topId = ScopePath.topId) {value : Value} (within : value.Within ids)
    (renamed : (value.rename map).Within others) :
    value.Within {id | id ∈ ids ∧ map id ∈ others} := by
  induction value with
  | pair first rest ihFirst ihRest =>
      exact ⟨ihFirst within.1 renamed.1, ihRest within.2 renamed.2⟩
  | lambda params body path ih => exact ⟨ih within.1 renamed.1, within.2.comp top renamed.2⟩
  | _ => trivial

end Value

namespace Renaming

/-- The second renaming after the first, on the scopes that both cover. -/
def comp (first second : Renaming) : Renaming where
  map := second.map ∘ first.map
  source := {id | id ∈ first.source ∧ first.map id ∈ second.source}
  target := second.map ∘ first.map '' {id | id ∈ first.source ∧ first.map id ∈ second.source}
  bijOn := by
    refine Set.InjOn.bijOn_image ?_
    exact second.bijOn.injOn.comp (first.bijOn.injOn.mono fun _ => And.left) fun _ => And.right
  top_mem := ⟨first.top_mem, by rw [first.map_top]; exact second.top_mem⟩
  map_top := by rw [Function.comp_apply, first.map_top, second.map_top]

theorem Binds.comp {first second : Renaming} {scope middle other : Scope}
    (one : first.Binds scope middle) (two : second.Binds middle other) :
    (first.comp second).Binds scope other := by
  intro name
  obtain ⟨same, within⟩ := one name
  obtain ⟨sameAgain, withinAgain⟩ := two name
  refine ⟨?_, fun value bound => ?_⟩
  · rw [sameAgain, same, Option.map_map]
    exact congrArg (Option.map · (scope.get? name))
      (funext (Value.rename_rename first.map second.map))
  · have renamed : value.rename first.map ∈ middle.get? name := by
      rw [same]
      exact Option.mem_map_of_mem _ bound
    exact (within value bound).comp first.map_top (withinAgain _ renamed)

/-- **Stores correspond along the way.** -/
theorem Stores.comp {first second : Renaming} {left middle right : ScopeStore}
    (one : first.Stores left middle) (two : second.Stores middle right) :
    (first.comp second).Stores left right := by
  refine ⟨fun id member => one.left_contains id member.1, ?_, ?_⟩
  · rintro _ ⟨id, member, rfl⟩
    exact two.right_contains _ (second.bijOn.mapsTo member.2)
  · intro id member scope other found foundOther
    obtain ⟨_, between, isScope, isBetween, binds⟩ := one.find member.1
    obtain rfl := Option.some.inj (isScope.symm.trans found)
    exact binds.comp (two.binds _ member.2 between other isBetween foundOther)

/-! ### Scopes that keep their numbers -/

/-- The numbers of the scopes while there are `size` of them. -/
def allocated (size : Nat) : Set Int := {id | 0 ≤ id ∧ id < size}

/-- A permutation that keeps the top level, on the first `size` scopes. -/
def ofPerm (perm : Equiv.Perm Int) (top : perm ScopePath.topId = ScopePath.topId) {size : Nat}
    (pos : 0 < size) : Renaming where
  map := perm
  source := allocated size
  target := perm '' allocated size
  bijOn := perm.injective.injOn.bijOn_image
  top_mem := ⟨le_rfl, Int.natCast_pos.mpr pos⟩
  map_top := top

end Renaming

open Renaming (allocated)

theorem Value.within_of_isReadable {value : Value} (readable : value.isReadable) (ids : Set Int) :
    value.Within ids := by
  induction value with
  | pair first rest ihFirst ihRest =>
      rw [isReadable_pair, Bool.and_eq_true] at readable
      exact ⟨ihFirst readable.1, ihRest readable.2⟩
  | lambda => cases readable
  | _ => trivial

namespace Value

theorem rename_id (value : Value) : value.rename id = value := by
  induction value with
  | pair first rest ihFirst ihRest => rw [rename, ihFirst, ihRest]
  | lambda params body path ih => rw [rename, ih, ScopePath.rename, List.map_id]
  | _ => rfl

/-- A renaming that keeps the scopes of a value keeps the value. -/
theorem rename_of_fixed {map : Int → Int} {ids : Set Int} {value : Value} (within : value.Within ids)
    (fixed : Set.EqOn map id ids) : value.rename map = value :=
  (rename_congr within fixed).trans value.rename_id

theorem rename_of_isReadable {value : Value} (readable : value.isReadable) (map : Int → Int) :
    value.rename map = value :=
  rename_of_fixed (within_of_isReadable readable ∅) (Set.eqOn_empty _ _)

theorem Sound.within {size : Nat} {value : Value} (sound : value.Sound size) :
    value.Within (allocated size) := by
  cases value with
  | builtin => trivial
  | lambda params body path =>
      exact ⟨within_of_isReadable sound.2.1 _, sound.2.2.allocated⟩
  | _ => exact within_of_isReadable sound _

end Value

section Fixed

variable {bijection : Renaming} {size : Nat} (covers : allocated size ⊆ bijection.source)
  (fixed : Set.EqOn bijection.map id (allocated size))
include covers fixed

theorem Scope.Sound.binds {scope : Scope} (sound : scope.Sound size) :
    bijection.Binds scope scope := by
  have bound : ∀ name, ∀ value ∈ scope.get? name, value.Within (allocated size) :=
    fun name value found => (sound _ (Scope.mem_of_findIn found)).within
  intro name
  refine ⟨?_, fun value found => (bound name value found).mono covers⟩
  cases found : scope.get? name with
  | none => rfl
  | some value => rw [Option.map_some, Value.rename_of_fixed (bound name value found) fixed]

end Fixed

/-- **A sound store corresponds to itself.** -/
theorem ScopeStore.Sound.stores {store : ScopeStore} (sound : store.Sound) :
    (Renaming.ofPerm (Equiv.refl Int) rfl store.size_pos).Stores store store := by
  refine ⟨fun id member => contains_iff.mpr member, ?_, ?_⟩
  · rintro _ ⟨id, member, rfl⟩
    exact contains_iff.mpr member
  · intro id member scope other found foundOther
    obtain rfl := Option.some.inj (found.symm.trans foundOther)
    exact Scope.Sound.binds subset_rfl (Set.eqOn_refl _ _) (sound id scope found)

end SmallLisp
