/-
**What the bindings of a store have in common.**

A property of values holds throughout a store if every scope binds only values that have it. It is kept
by what evaluation does to a store: a new scope of such values (`Each.add`, `each_zip`) and a binding
of one (`Each.bindAt`). A lookup only ever finds such values (`Each.resolve`).
-/

import SmallLisp.Scope.Store

namespace SmallLisp

variable {good : Value → Prop}

/-- Every value that a scope binds is good. -/
def Scope.Each (good : Value → Prop) (scope : Scope) : Prop := ∀ binding ∈ scope.bindings, good binding.2

namespace Scope

theorem mem_of_findIn {name : String} {value : Value} {bindings : List (String × Value)}
    (found : findIn name bindings = some value) : (name, value) ∈ bindings := by
  induction bindings with
  | nil => cases found
  | cons binding rest ih =>
      obtain ⟨bound, old⟩ := binding
      rw [findIn] at found
      split at found
      · rename_i same
        cases found
        rw [same]
        exact List.mem_cons_self
      · exact List.mem_cons_of_mem _ (ih found)

theorem Each.define {scope : Scope} {value : Value} (each : scope.Each good) (bound : good value)
    (name : String) : (scope.define name value).Each good := by
  obtain ⟨bindings⟩ := scope
  show ∀ binding ∈ defineIn name value bindings, good binding.2
  change ∀ binding ∈ bindings, good binding.2 at each
  induction bindings with
  | nil => exact List.forall_mem_singleton.mpr bound
  | cons binding rest ih =>
      obtain ⟨here, others⟩ := List.forall_mem_cons.mp each
      rw [defineIn]
      split
      · exact List.forall_mem_cons.mpr ⟨bound, others⟩
      · exact List.forall_mem_cons.mpr ⟨here, ih others⟩

theorem each_empty : empty.Each good := fun _ member => absurd member List.not_mem_nil

theorem each_ofBindings {bindings : List (String × Value)}
    (each : ∀ binding ∈ bindings, good binding.2) : (ofBindings bindings).Each good := by
  have folded : ∀ start : Scope, start.Each good →
      (bindings.foldl (fun scope binding => scope.define binding.1 binding.2) start).Each good := by
    induction bindings with
    | nil => exact fun start known => known
    | cons binding rest ih =>
        obtain ⟨first, others⟩ := List.forall_mem_cons.mp each
        exact fun start known => ih others _ (known.define first binding.1)
  exact folded empty each_empty

theorem each_zip (names : List String) {values : List Value} (each : ∀ value ∈ values, good value) :
    (ofBindings (names.zip values)).Each good :=
  each_ofBindings fun _ member => each _ (List.of_mem_zip member).2

end Scope

/-- Every value that is bound in a store is good. -/
def ScopeStore.Each (good : Value → Prop) (store : ScopeStore) : Prop :=
  ∀ id scope, store.scope? id = some scope → scope.Each good

namespace ScopeStore

theorem mem_of_scope? {store : ScopeStore} {id : Int} {scope : Scope}
    (found : store.scope? id = some scope) : scope ∈ store.scopes := by
  unfold scope? at found
  split at found
  · cases found
  · exact Array.mem_of_getElem? found

theorem eq_empty_of_initial {id : Int} {scope : Scope} (found : initial.scope? id = some scope) :
    scope = .empty :=
  Array.mem_singleton.mp (mem_of_scope? found)

theorem each_initial : initial.Each good := by
  intro id scope found
  rw [eq_empty_of_initial found]
  exact Scope.each_empty

variable {store : ScopeStore}

theorem Each.mono {better : Value → Prop} (each : store.Each good)
    (implied : ∀ value, good value → better value) : store.Each better :=
  fun id scope found binding member => implied binding.2 (each id scope found binding member)

theorem Each.add (each : store.Each good) {scope : Scope} (new : scope.Each good) :
    (store.add scope).2.Each good := by
  intro id other found
  rw [scope?_add] at found
  split at found
  · cases found
    exact new
  · exact each id other found

theorem Each.bindAt (each : store.Each good) {value : Value} (bound : good value) (index : Nat)
    (name : String) : (store.bindAt index name value).Each good := by
  intro id scope found
  rw [scope?_bindAt] at found
  split at found
  · obtain ⟨old, foundOld, rfl⟩ := Option.map_eq_some_iff.mp found
    exact (each id old foundOld).define bound name
  · exact each id scope found

/-- **A lookup finds a good value**, if any. -/
theorem Each.resolve (each : store.Each good) {path : ScopePath} {name : String} {value : Value}
    (found : store.resolve path name = .ok (some value)) : good value := by
  have along : ∀ ids : List Int, store.resolveIn name ids = .ok (some value) → good value := by
    intro ids
    induction ids with
    | nil => nofun
    | cons id rest ih =>
        intro resolved
        cases known : store.scope? id with
        | none => simp [resolveIn, known] at resolved
        | some scope =>
            cases bound : scope.get? name with
            | none =>
                simp only [resolveIn, known, bound] at resolved
                exact ih resolved
            | some other =>
                simp only [resolveIn, known, bound, Except.ok.injEq, Option.some.injEq] at resolved
                subst resolved
                exact each id scope known (name, other) (Scope.mem_of_findIn bound)
  exact along _ found

end ScopeStore

end SmallLisp
