/-
**The world of an evaluation.** Evaluating changes two things: the store of scopes and the text
that was printed. A failing evaluation keeps all changes that were made before the failure.
-/

import SmallLisp.Scope.Store

namespace SmallLisp

/-- What evaluation acts on: the scopes and the printed text. -/
structure World where
  store : ScopeStore
  output : String

namespace World

/-- The world before any program: an empty top level, and nothing printed. -/
def initial : World := ⟨.initial, ""⟩

instance : Inhabited World := ⟨initial⟩

end World

/-- A computation that may read and change the world and may fail. -/
abbrev EvalM := EStateM Fault World

namespace EvalM

/-- The result of a computation that does not touch the world. -/
@[inline] def ofExcept {α : Type} : Except Fault α → EvalM α
  | .ok value => pure value
  | .error fault => throw fault

/-- Appends text to what was printed. -/
def print (text : String) : EvalM Unit :=
  modify fun world => { world with output := world.output ++ text }

/-- Adds a scope to the store and gives its id. -/
def addScope (scope : Scope) : EvalM Int :=
  modifyGet fun world =>
    let (id, store) := world.store.add scope
    (id, { world with store })

/-- Binds a name in exactly the scope `id`, which must exist. -/
def define (id : Int) (name : String) (value : Value) : EvalM Unit := do
  if (← get).store.contains id then
    modify fun world => { world with store := world.store.bindAt id.toNat name value }
  else throw (.noScope id)

/-- The innermost binding of a name along a path. -/
def resolve (path : ScopePath) (name : String) : EvalM (Option Value) := do
  let world ← get
  ofExcept (world.store.resolve path name)

/-! ### What each operation does to the world -/

@[simp] theorem ofExcept_ok {α : Type} (value : α) (world : World) :
    (ofExcept (.ok value) : EvalM α) world = .ok value world := rfl

@[simp] theorem ofExcept_error {α : Type} (fault : Fault) (world : World) :
    (ofExcept (.error fault) : EvalM α) world = .error fault world := rfl

@[simp] theorem print_apply (text : String) (world : World) :
    print text world = .ok () { world with output := world.output ++ text } := rfl

@[simp] theorem addScope_apply (scope : Scope) (world : World) :
    addScope scope world =
      .ok (world.store.add scope).1 { world with store := (world.store.add scope).2 } := rfl

/-- A binding is made in the store, or the world stays as it is. -/
theorem define_apply (id : Int) (name : String) (value : Value) (world : World) :
    define id name value world =
      match world.store.define id name value with
      | .ok store => .ok () { world with store }
      | .error fault => .error fault world := by
  show (if world.store.contains id then _ else _ : EvalM Unit) world = _
  unfold ScopeStore.define
  by_cases known : world.store.contains id
  · rw [if_pos known, if_pos known]
    rfl
  · rw [if_neg known, if_neg known]
    rfl

/-- Looking a name up leaves the world as it is. -/
theorem resolve_apply (path : ScopePath) (name : String) (world : World) :
    resolve path name world =
      match world.store.resolve path name with
      | .ok value => .ok value world
      | .error fault => .error fault world := by
  show ofExcept (world.store.resolve path name) world = _
  cases world.store.resolve path name <;> rfl

end EvalM

end SmallLisp
