/-
**Scopes and their store.** A scope binds names to values in the order in which the names were
first bound; binding a name again keeps its place. The store holds all scopes ever created, by
number, and never gives one up. The top level, scope `0`, always exists.

Names are resolved along a path, the innermost scope first. Ids on the path are only checked when
they are reached, so an id that names no scope does no harm behind a scope that binds the name.
-/

import SmallLisp.Fault

namespace SmallLisp

/-- The path with the given ids, which must start at the top level. -/
def ScopePath.ofIds (ids : List Int) : Except Fault ScopePath :=
  match ofIds? ids with
  | some path => .ok path
  | none => .error (.pathNotFromTop ids)

/-- Bindings of names to values, in the order in which the names were first bound. -/
structure Scope where
  bindings : List (String × Value)
  deriving DecidableEq, Repr

namespace Scope

/-- The scope without bindings. -/
def empty : Scope := ⟨[]⟩

instance : Inhabited Scope := ⟨empty⟩

/-- The value that some bindings give to a name. -/
def findIn (name : String) : List (String × Value) → Option Value
  | [] => none
  | (other, value) :: rest => if other = name then some value else findIn name rest

/-- The value bound to a name. -/
def get? (scope : Scope) (name : String) : Option Value := findIn name scope.bindings

/-- The bindings with `name` bound to `value`: in its old place, or else at the end. -/
def defineIn (name : String) (value : Value) : List (String × Value) → List (String × Value)
  | [] => [(name, value)]
  | (other, old) :: rest =>
    if other = name then (name, value) :: rest else (other, old) :: defineIn name value rest

/-- The scope with `name` bound to `value`. -/
def define (scope : Scope) (name : String) (value : Value) : Scope :=
  ⟨defineIn name value scope.bindings⟩

/-- The scope that binds names to values one after the other; a later binding of a name wins. -/
def ofBindings (bindings : List (String × Value)) : Scope :=
  bindings.foldl (fun scope (name, value) => scope.define name value) empty

/-- The bindings between braces, the values as technical text. -/
def inspect (scope : Scope) : String :=
  "\x7b" ++ ", ".intercalate (scope.bindings.map fun (name, value) => name ++ ": " ++ value.inspect)
    ++ "\x7d"

/-! ### Looking up after defining -/

theorem findIn_defineIn (name other : String) (value : Value) (bindings : List (String × Value)) :
    findIn other (defineIn name value bindings) =
      if other = name then some value else findIn other bindings := by
  induction bindings with
  | nil => by_cases same : name = other <;> simp [defineIn, findIn, same, eq_comm]
  | cons binding rest ih =>
    obtain ⟨bound, old⟩ := binding
    by_cases here : bound = name
    · subst here
      by_cases same : bound = other
      · simp [defineIn, findIn, same]
      · simp [defineIn, findIn, same, Ne.symm same]
    · by_cases found : bound = other
      · subst found
        simp [defineIn, findIn, here]
      · simp [defineIn, findIn, here, found, ih]

@[simp] theorem get?_define (scope : Scope) (name other : String) (value : Value) :
    (scope.define name value).get? other = if other = name then some value else scope.get? other :=
  findIn_defineIn name other value scope.bindings

@[simp] theorem get?_empty (name : String) : empty.get? name = none := rfl

end Scope

/-- All scopes that were ever created. The scope with number `0` is the top level. -/
structure ScopeStore where
  scopes : Array Scope
  size_pos : 0 < scopes.size

namespace ScopeStore

/-- The store that holds only an empty top level. -/
def initial : ScopeStore := ⟨#[Scope.empty], by decide⟩

instance : Inhabited ScopeStore := ⟨initial⟩

/-- The number of scopes. -/
def size (store : ScopeStore) : Nat := store.scopes.size

/-- The scope with a given id. -/
def scope? (store : ScopeStore) (id : Int) : Option Scope :=
  if id < 0 then none else store.scopes[id.toNat]?

/-- The store with one more scope, and the id of that scope. -/
def add (store : ScopeStore) (scope : Scope) : Int × ScopeStore :=
  (store.scopes.size, ⟨store.scopes.push scope, by simp⟩)

/-- The store with one more, empty scope, and the id of that scope. -/
def create (store : ScopeStore) : Int × ScopeStore := store.add .empty

/-- Whether a scope has been created under `id`. -/
def contains (store : ScopeStore) (id : Int) : Bool := 0 ≤ id && id < store.scopes.size

/-- The store with `name` bound in the scope with number `index`, if there is one. -/
def bindAt (store : ScopeStore) (index : Nat) (name : String) (value : Value) : ScopeStore :=
  ⟨store.scopes.modify index (·.define name value), by simpa using store.size_pos⟩

/-- The store with `name` bound in exactly the scope `id`. -/
def define (store : ScopeStore) (id : Int) (name : String) (value : Value) :
    Except Fault ScopeStore :=
  if store.contains id then .ok (store.bindAt id.toNat name value) else .error (.noScope id)

/-- Looks a name up in the scopes with the given ids, one after the other. -/
def resolveIn (store : ScopeStore) (name : String) : List Int → Except Fault (Option Value)
  | [] => .ok none
  | id :: ids =>
    match store.scope? id with
    | none => .error (.noScope id)
    | some scope =>
      match scope.get? name with
      | some value => .ok (some value)
      | none => resolveIn store name ids

/-- The innermost binding of a name along a path. -/
def resolve (store : ScopeStore) (path : ScopePath) (name : String) :
    Except Fault (Option Value) :=
  store.resolveIn name path.innermostFirst

/-- The top-level scope. -/
def topScope (store : ScopeStore) : Scope :=
  have := store.size_pos
  store.scopes[0]

/-- The top-level binding of a name. -/
def topLevel (store : ScopeStore) (name : String) : Option Value := store.topScope.get? name

/-- The text of all scopes by number. -/
def inspect (store : ScopeStore) : String :=
  let entries := store.scopes.toList.zipIdx.map fun (scope, id) =>
    toString id ++ ": " ++ scope.inspect
  "<ScopeStore " ++ " | ".intercalate entries ++ ">"

/-! ### The scopes after a change -/

@[simp] theorem size_initial : initial.size = 1 := rfl

@[simp] theorem size_add (store : ScopeStore) (scope : Scope) :
    (store.add scope).2.size = store.size + 1 := by
  simp [size, add]

@[simp] theorem size_bindAt (store : ScopeStore) (index : Nat) (name : String) (value : Value) :
    (store.bindAt index name value).size = store.size := by
  simp [size, bindAt]

/-- The scopes with an id are those in the store. -/
theorem contains_eq_isSome (store : ScopeStore) (id : Int) :
    store.contains id = (store.scope? id).isSome := by
  unfold contains scope?
  by_cases negative : id < 0
  · have below : ¬ 0 ≤ id := by omega
    simp [negative, below]
  · rw [if_neg negative, Bool.eq_iff_iff]
    simp only [Bool.and_eq_true, decide_eq_true_eq, isSome_getElem?]
    omega

theorem contains_iff {store : ScopeStore} {id : Int} :
    store.contains id ↔ 0 ≤ id ∧ id < store.size := by
  simp [contains, size]

theorem exists_scope? {store : ScopeStore} {id : Int} (known : store.contains id) :
    ∃ scope, store.scope? id = some scope := by
  rwa [contains_eq_isSome, Option.isSome_iff_exists] at known

/-- A new scope is found under the id that it was given, and the others under theirs. -/
theorem scope?_add (store : ScopeStore) (scope : Scope) (id : Int) :
    (store.add scope).2.scope? id =
      if id = (store.add scope).1 then some scope else store.scope? id := by
  unfold scope? add
  by_cases negative : id < 0
  · have other : id ≠ (store.scopes.size : Int) := by omega
    simp [negative, other]
  · by_cases new : id = (store.scopes.size : Int)
    · subst new
      simp
    · have other : id.toNat ≠ store.scopes.size := by omega
      simp [negative, new, other, Array.getElem?_push]

/-- A binding changes the scope in which it is made and no other. -/
theorem scope?_bindAt (store : ScopeStore) (index : Nat) (name : String) (value : Value)
    (id : Int) :
    (store.bindAt index name value).scope? id =
      if id = index then (store.scope? id).map (·.define name value) else store.scope? id := by
  unfold scope? bindAt
  by_cases negative : id < 0
  · have other : id ≠ (index : Int) := by omega
    simp [negative, other]
  · by_cases here : id = (index : Int)
    · subst here
      simp [negative, Array.getElem?_modify]
    · have other : index ≠ id.toNat := by omega
      simp [negative, here, other, Array.getElem?_modify]

end ScopeStore

end SmallLisp
