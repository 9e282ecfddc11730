/-
**Stores that correspond.**

Two stores correspond under a bijection between some scopes of the one and some scopes of the other
if corresponding scopes bind the same names to corresponding values (`Renaming.Stores`). Scopes that
the bijection leaves out may hold anything.

* `Stores.resolve`: corresponding names are resolved to corresponding values;
* `Stores.bindAt`: corresponding bindings keep the correspondence;
* `Stores.add`: corresponding new scopes extend it.
-/

import SmallLisp.Proofs.Value.Rename
import SmallLisp.Scope.Store

namespace SmallLisp

/-- A bijection between two sets of scopes that keeps the top level. -/
structure Renaming where
  map : Int → Int
  source : Set Int
  target : Set Int
  bijOn : Set.BijOn map source target
  top_mem : ScopePath.topId ∈ source
  map_top : map ScopePath.topId = ScopePath.topId

namespace Renaming

variable {bijection larger : Renaming}

/-- A renaming that covers more scopes and renames those it had as before. -/
structure Grows (bijection larger : Renaming) : Prop where
  source : bijection.source ⊆ larger.source
  target : bijection.target ⊆ larger.target
  same : Set.EqOn bijection.map larger.map bijection.source

theorem Grows.refl (bijection : Renaming) : bijection.Grows bijection :=
  ⟨subset_rfl, subset_rfl, Set.eqOn_refl _ _⟩

theorem Grows.trans {largest : Renaming} (first : bijection.Grows larger)
    (second : larger.Grows largest) : bijection.Grows largest where
  source := first.source.trans second.source
  target := first.target.trans second.target
  same := first.same.trans (second.same.mono first.source)

theorem Grows.rename_value (grows : bijection.Grows larger) {value : Value}
    (within : value.Within bijection.source) :
    value.rename larger.map = value.rename bijection.map :=
  (Value.rename_congr within grows.same).symm

theorem Grows.rename_path (grows : bijection.Grows larger) {path : ScopePath}
    (within : path.Within bijection.source) :
    path.rename larger.map = path.rename bijection.map :=
  (ScopePath.rename_congr within grows.same).symm

/-- The renaming with one more scope on each side. -/
def add (bijection : Renaming) (id other : Int) (new : id ∉ bijection.source)
    (newOther : other ∉ bijection.target) : Renaming where
  map := Function.update bijection.map id other
  source := insert id bijection.source
  target := insert other bijection.target
  bijOn := by
    have kept : Set.EqOn bijection.map (Function.update bijection.map id other) bijection.source := by
      intro old member
      rw [Function.update_of_ne (ne_of_mem_of_not_mem member new)]
    have grown := (bijection.bijOn.congr kept).insert (a := id)
      (by rwa [Function.update_self])
    rwa [Function.update_self] at grown
  top_mem := Set.mem_insert_of_mem id bijection.top_mem
  map_top := by
    rw [Function.update_of_ne (ne_of_mem_of_not_mem bijection.top_mem new), bijection.map_top]

theorem grows_add {id other : Int} (new : id ∉ bijection.source)
    (newOther : other ∉ bijection.target) :
    bijection.Grows (bijection.add id other new newOther) where
  source := Set.subset_insert id _
  target := Set.subset_insert other _
  same := fun old member => by
    show bijection.map old = Function.update bijection.map id other old
    rw [Function.update_of_ne (ne_of_mem_of_not_mem member new)]

/-! ### Scopes -/

/-- The second scope binds the names of the first, to the renamed values. -/
def Binds (bijection : Renaming) (scope other : Scope) : Prop :=
  ∀ name, other.get? name = (scope.get? name).map (Value.rename bijection.map) ∧
    ∀ value ∈ scope.get? name, value.Within bijection.source

theorem Binds.mono {scope other : Scope} (binds : bijection.Binds scope other)
    (grows : bijection.Grows larger) : larger.Binds scope other := by
  intro name
  obtain ⟨same, within⟩ := binds name
  refine ⟨?_, fun value bound => (within value bound).mono grows.source⟩
  rw [same]
  cases bound : scope.get? name with
  | none => rfl
  | some value => rw [Option.map_some, Option.map_some, grows.rename_value (within value bound)]

theorem binds_empty (bijection : Renaming) : bijection.Binds .empty .empty :=
  fun _ => ⟨rfl, fun _ bound => nomatch bound⟩

theorem Binds.define {scope other : Scope} (binds : bijection.Binds scope other) {value : Value}
    (within : value.Within bijection.source) (name : String) :
    bijection.Binds (scope.define name value) (other.define name (value.rename bijection.map)) := by
  intro asked
  rw [Scope.get?_define, Scope.get?_define]
  by_cases here : asked = name
  · rw [if_pos here, if_pos here]
    refine ⟨rfl, fun bound same => ?_⟩
    cases same
    exact within
  · rw [if_neg here, if_neg here]
    exact binds asked

theorem binds_ofBindings (names : List String) {values : List Value}
    (within : ∀ value ∈ values, value.Within bijection.source) :
    bijection.Binds (.ofBindings (names.zip values))
      (.ofBindings (names.zip (values.map (Value.rename bijection.map)))) := by
  have folded : ∀ scope other : Scope, bijection.Binds scope other →
      bijection.Binds
        ((names.zip values).foldl (fun scope binding => scope.define binding.1 binding.2) scope)
        ((names.zip (values.map (Value.rename bijection.map))).foldl
          (fun scope binding => scope.define binding.1 binding.2) other) := by
    induction names generalizing values with
    | nil => exact fun _ _ binds => binds
    | cons name names ih =>
        intro scope other binds
        cases values with
        | nil => exact binds
        | cons value values =>
            obtain ⟨first, others⟩ := List.forall_mem_cons.mp within
            exact ih others _ _ (binds.define first name)
  exact folded .empty .empty bijection.binds_empty

end Renaming

/-! ### Stores -/

namespace ScopeStore

variable {store : ScopeStore} {id : Int}

theorem add_fst (store : ScopeStore) (scope : Scope) : (store.add scope).1 = store.size := rfl

theorem contains_bindAt (index : Nat) (name : String) (value : Value) :
    (store.bindAt index name value).contains id ↔ store.contains id := by
  rw [contains_iff, contains_iff, size_bindAt]

theorem contains_add (scope : Scope) :
    (store.add scope).2.contains id ↔ store.contains id ∨ id = store.size := by
  rw [contains_iff, contains_iff, size_add]
  omega

end ScopeStore

namespace Renaming

variable {bijection larger : Renaming}

/-- Corresponding scopes exist and bind the same names to corresponding values. -/
structure Stores (bijection : Renaming) (left right : ScopeStore) : Prop where
  left_contains : ∀ id ∈ bijection.source, left.contains id
  right_contains : ∀ id ∈ bijection.target, right.contains id
  binds : ∀ id ∈ bijection.source, ∀ scope other, left.scope? id = some scope →
    right.scope? (bijection.map id) = some other → bijection.Binds scope other

namespace Stores

variable {left right : ScopeStore}

/-- Corresponding scopes. -/
theorem find (stores : bijection.Stores left right) {id : Int} (member : id ∈ bijection.source) :
    ∃ scope other, left.scope? id = some scope ∧ right.scope? (bijection.map id) = some other ∧
      bijection.Binds scope other := by
  obtain ⟨scope, found⟩ := ScopeStore.exists_scope? (stores.left_contains id member)
  obtain ⟨other, foundOther⟩ :=
    ScopeStore.exists_scope? (stores.right_contains _ (bijection.bijOn.mapsTo member))
  exact ⟨scope, other, found, foundOther, stores.binds id member scope other found foundOther⟩

/-- **Names are resolved alike**: no look-up fails, and the same bindings are found. -/
theorem resolve (stores : bijection.Stores left right) {path : ScopePath}
    (within : path.Within bijection.source) (name : String) :
    ∃ found, left.resolve path name = .ok found ∧
      right.resolve (path.rename bijection.map) name
        = .ok (found.map (Value.rename bijection.map)) ∧
      ∀ value ∈ found, value.Within bijection.source := by
  have along : ∀ ids : List Int, (∀ id ∈ ids, id ∈ bijection.source) →
      ∃ found, left.resolveIn name ids = .ok found ∧
        right.resolveIn name (ids.map bijection.map)
          = .ok (found.map (Value.rename bijection.map)) ∧
        ∀ value ∈ found, value.Within bijection.source := by
    intro ids
    induction ids with
    | nil => exact fun _ => ⟨none, rfl, rfl, fun _ bound => nomatch bound⟩
    | cons id rest ih =>
        intro members
        obtain ⟨member, others⟩ := List.forall_mem_cons.mp members
        obtain ⟨scope, other, found, foundOther, binds⟩ := stores.find member
        obtain ⟨same, bound⟩ := binds name
        simp only [List.map_cons, ScopeStore.resolveIn, found, foundOther, same]
        cases here : scope.get? name with
        | none => exact ih others
        | some value => exact ⟨some value, rfl, rfl, fun _ same => bound _ (here ▸ same)⟩
  unfold ScopeStore.resolve
  rw [ScopePath.innermostFirst_rename bijection.map_top]
  exact along _ within.innermostFirst

/-- **Corresponding bindings** keep the correspondence. -/
theorem bindAt (stores : bijection.Stores left right) {id : Int} (member : id ∈ bijection.source)
    {value : Value} (within : value.Within bijection.source) (name : String) :
    bijection.Stores (left.bindAt id.toNat name value)
      (right.bindAt (bijection.map id).toNat name (value.rename bijection.map)) := by
  have known := ScopeStore.contains_iff.mp (stores.left_contains id member)
  have knownOther := ScopeStore.contains_iff.mp
    (stores.right_contains _ (bijection.bijOn.mapsTo member))
  have place : (id.toNat : Int) = id := Int.toNat_of_nonneg known.1
  have otherPlace : ((bijection.map id).toNat : Int) = bijection.map id :=
    Int.toNat_of_nonneg knownOther.1
  refine ⟨fun old isOld => ?_, fun old isOld => ?_, fun asked isAsked => ?_⟩
  · exact (ScopeStore.contains_bindAt ..).mpr (stores.left_contains old isOld)
  · exact (ScopeStore.contains_bindAt ..).mpr (stores.right_contains old isOld)
  · intro scope other found foundOther
    rw [ScopeStore.scope?_bindAt, place] at found
    rw [ScopeStore.scope?_bindAt, otherPlace] at foundOther
    by_cases here : asked = id
    · subst here
      rw [if_pos rfl] at found foundOther
      obtain ⟨old, isOld, rfl⟩ := Option.map_eq_some_iff.mp found
      obtain ⟨otherOld, isOtherOld, rfl⟩ := Option.map_eq_some_iff.mp foundOther
      exact (stores.binds asked member old otherOld isOld isOtherOld).define within name
    · -- the two scopes are other ones on both sides, because no two scopes are renamed alike
      have elsewhere : bijection.map asked ≠ bijection.map id :=
        fun same => here (bijection.bijOn.injOn isAsked member same)
      rw [if_neg here] at found
      rw [if_neg elsewhere] at foundOther
      exact stores.binds asked isAsked scope other found foundOther

/-- **Corresponding new scopes** extend the correspondence. -/
theorem add (stores : bijection.Stores left right) {scope other : Scope}
    (binds : bijection.Binds scope other) :
    ∃ larger : Renaming, bijection.Grows larger ∧
      larger.Stores (left.add scope).2 (right.add other).2 ∧
      (left.size : Int) ∈ larger.source ∧ larger.map left.size = right.size := by
  have new : (left.size : Int) ∉ bijection.source := by
    intro member
    have bounds := ScopeStore.contains_iff.mp (stores.left_contains _ member)
    omega
  have newOther : (right.size : Int) ∉ bijection.target := by
    intro member
    have bounds := ScopeStore.contains_iff.mp (stores.right_contains _ member)
    omega
  have grows := grows_add new newOther
  have mapped : (bijection.add left.size right.size new newOther).map left.size = right.size :=
    Function.update_self ..
  refine ⟨bijection.add left.size right.size new newOther, grows, ⟨?_, ?_, ?_⟩,
    Set.mem_insert _ _, mapped⟩
  · rintro id (rfl | member)
    · exact (ScopeStore.contains_add scope).mpr (.inr rfl)
    · exact (ScopeStore.contains_add scope).mpr (.inl (stores.left_contains id member))
  · rintro id (rfl | member)
    · exact (ScopeStore.contains_add other).mpr (.inr rfl)
    · exact (ScopeStore.contains_add other).mpr (.inl (stores.right_contains id member))
  · rintro id (rfl | member) found foundOther isFound isFoundOther
    · rw [ScopeStore.scope?_add, ScopeStore.add_fst, if_pos rfl] at isFound
      rw [mapped, ScopeStore.scope?_add, ScopeStore.add_fst, if_pos rfl] at isFoundOther
      cases isFound
      cases isFoundOther
      exact binds.mono grows
    · have older : id ≠ left.size := ne_of_mem_of_not_mem member new
      have otherOlder : bijection.map id ≠ right.size :=
        ne_of_mem_of_not_mem (bijection.bijOn.mapsTo member) newOther
      rw [ScopeStore.scope?_add, ScopeStore.add_fst, if_neg older] at isFound
      rw [← grows.same member, ScopeStore.scope?_add, ScopeStore.add_fst, if_neg otherOlder] at isFoundOther
      exact (stores.binds id member found foundOther isFound isFoundOther).mono grows

end Stores

end Renaming

end SmallLisp
