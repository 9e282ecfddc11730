/-
**Binding arguments is all or nothing.**

Applying a closure binds its parameters in a new scope. Whatever can go wrong is found before that scope is
made, so a failure leaves no trace; after it nothing can fail, because the scope that the bindings are made in
is the one that was just created:

* `bindArguments_eq_bindInTurn`: making the scope and then one binding after the other comes to adding the
  scope with all its bindings at once;
* `names_ofBindings`, `get?_ofBindings_iff`: bindings in a row bind each name once, in the place of its first
  occurrence and to the value of its last;
* `bindArguments_improper`, `bindArguments_miscounted`, `bindArguments_counted`: the three endings.
-/

import Mathlib.Data.List.Induction
import SmallLisp.Proofs.Eval.Arguments
import SmallLisp.Proofs.Eval.Frame

namespace SmallLisp

/-! ### The last position of a name -/

/-- A name stands at a position of a list of names and nowhere after it. -/
structure LastAt (names : List String) (name : String) (index : Nat) : Prop where
  here : names[index]? = some name
  last : ∀ later, index < later → names[later]? ≠ some name

theorem LastAt.lt_length {names : List String} {name : String} {index : Nat}
    (found : LastAt names name index) : index < names.length :=
  (List.getElem?_eq_some_iff.mp found.here).1

theorem lastAt_concat_self (names : List String) (name : String) (index : Nat) :
    LastAt (names ++ [name]) name index ↔ index = names.length := by
  constructor
  · intro found
    have bound := found.lt_length
    have ends := found.last names.length
    grind
  · rintro rfl
    constructor <;> grind

theorem lastAt_concat_of_ne {name other : String} (differs : name ≠ other) (names : List String)
    (index : Nat) : LastAt (names ++ [other]) name index ↔ LastAt names name index := by
  have same : ∀ position : Nat,
      (names ++ [other])[position]? = some name ↔ names[position]? = some name := by
    intro position
    grind
  constructor
  · rintro ⟨here, last⟩
    exact ⟨(same index).mp here, fun later after => mt (same later).mpr (last later after)⟩
  · rintro ⟨here, last⟩
    exact ⟨(same index).mpr here, fun later after => mt (same later).mp (last later after)⟩

/-! ### Bindings in a row -/

namespace Scope

theorem names_define (scope : Scope) (name : String) (value : Value) :
    (scope.define name value).names =
      if name ∈ scope.names then scope.names else scope.names ++ [name] := by
  obtain ⟨bindings⟩ := scope
  show (defineIn name value bindings).map Prod.fst =
    if name ∈ bindings.map Prod.fst then bindings.map Prod.fst else bindings.map Prod.fst ++ [name]
  induction bindings with
  | nil => rfl
  | cons binding rest ih =>
      obtain ⟨bound, old⟩ := binding
      by_cases same : bound = name
      · simp [defineIn, same]
      · have other : ¬ name = bound := fun equal => same equal.symm
        by_cases member : name ∈ rest.map Prod.fst
        · rw [if_pos member] at ih
          simp [defineIn, same, member, ih]
        · rw [if_neg member] at ih
          simp [defineIn, same, other, member, ih]

theorem ofBindings_concat (bindings : List (String × Value)) (name : String) (value : Value) :
    ofBindings (bindings ++ [(name, value)]) = (ofBindings bindings).define name value := by
  simp [ofBindings]

/-- **Each name is bound once**, in the place of its first occurrence. -/
theorem names_ofBindings (bindings : List (String × Value)) :
    (ofBindings bindings).names = (bindings.map Prod.fst).eraseDups := by
  induction bindings using List.reverseRecOn with
  | nil => rfl
  | append_singleton bindings binding ih =>
      obtain ⟨name, value⟩ := binding
      rw [ofBindings_concat, names_define, ih, List.map_append, List.eraseDups_append]
      by_cases member : name ∈ bindings.map Prod.fst
      · have none : [name].removeAll (bindings.map Prod.fst) = [] := by
          simpa [List.removeAll] using member
        simp [member, none]
      · have one : [name].removeAll (bindings.map Prod.fst) = [name] := by
          simpa [List.removeAll] using member
        simp [member, one, List.eraseDups_cons]

/-- **The last occurrence of a name decides its value.** -/
theorem get?_ofBindings_iff {bindings : List (String × Value)} {name : String} {value : Value} :
    (ofBindings bindings).get? name = some value ↔
      ∃ index, LastAt (bindings.map Prod.fst) name index ∧ bindings[index]? = some (name, value) := by
  induction bindings using List.reverseRecOn with
  | nil => simp [ofBindings]
  | append_singleton bindings binding ih =>
      obtain ⟨bound, new⟩ := binding
      rw [ofBindings_concat, get?_define, List.map_append, List.map_singleton]
      by_cases same : name = bound
      · subst same
        simp only [lastAt_concat_self, exists_eq_left, List.length_map, if_true]
        simp
      · simp only [lastAt_concat_of_ne same, if_neg same, ih]
        refine exists_congr fun index => and_congr_right fun found => ?_
        have inside : index < bindings.length := by simpa using found.lt_length
        rw [List.getElem?_append_left inside]

/-- Of names and values side by side, the value at the last position of a name is bound to it. -/
theorem get?_ofBindings_zip_iff {names : List String} {values : List Value}
    (counted : values.length = names.length) {name : String} {value : Value} :
    (ofBindings (names.zip values)).get? name = some value ↔
      ∃ index, LastAt names name index ∧ values[index]? = some value := by
  rw [get?_ofBindings_iff, List.map_fst_zip (Nat.le_of_eq counted.symm)]
  refine exists_congr fun index => and_congr_right fun found => ?_
  rw [List.getElem?_zip_eq_some, and_iff_right found.here]

theorem names_ofBindings_zip {names : List String} {values : List Value}
    (counted : values.length = names.length) :
    (ofBindings (names.zip values)).names = names.eraseDups := by
  rw [names_ofBindings, List.map_fst_zip (Nat.le_of_eq counted.symm)]

end Scope

/-! ### One binding after the other -/

theorem ScopeStore.bindAt_add (store : ScopeStore) (scope : Scope) (name : String) (value : Value) :
    (store.add scope).2.bindAt store.size name value = (store.add (scope.define name value)).2 := by
  have filled : (store.scopes.push scope).modify store.scopes.size (·.define name value)
      = store.scopes.push (scope.define name value) := by
    apply Array.ext_getElem?
    intro index
    rw [Array.getElem?_modify, Array.getElem?_push, Array.getElem?_push]
    by_cases here : index = store.scopes.size
    · simp [here]
    · simp [here, Ne.symm here]
  simp only [bindAt, add, size, filled]

/-- A binding in the scope that was created last. -/
theorem define_created (store : ScopeStore) (scope : Scope) (name : String) (value : Value)
    (output : String) :
    EvalM.define store.size name value ⟨(store.add scope).2, output⟩
      = .ok () ⟨(store.add (scope.define name value)).2, output⟩ := by
  have known : (store.add scope).2.contains store.size := by
    rw [ScopeStore.contains_iff, ScopeStore.size_add]
    omega
  rw [EvalM.define_apply, ScopeStore.define, if_pos known, Int.toNat_natCast,
    ScopeStore.bindAt_add]

theorem forM_define_created (store : ScopeStore) (scope : Scope) (bindings : List (String × Value))
    (output : String) :
    (bindings.forM fun (name, value) => EvalM.define store.size name value)
        ⟨(store.add scope).2, output⟩
      = .ok () ⟨(store.add (bindings.foldl (fun scope (name, value) => scope.define name value)
          scope)).2, output⟩ := by
  induction bindings generalizing scope with
  | nil => rfl
  | cons binding bindings ih =>
      obtain ⟨name, value⟩ := binding
      exact (bind_of_ok (define_created store scope name value output)).trans
        (ih (scope.define name value))

namespace Closure

/-- Binds the arguments to the parameters one after the other, in a scope that is created for them once there
are known to be as many. -/
def bindInTurn (closure : Closure) (arguments : Value) : EvalM ScopePath := do
  let values ← EvalM.ofExcept arguments.elements
  if values.length = closure.arity then
    let id ← EvalM.addScope .empty
    (closure.params.zip values).forM fun (name, value) => EvalM.define id name value
    return closure.path.push id
  else throw (.arity closure.toValue.render closure.arity values.length)

variable (closure : Closure)

/-! ### The three endings -/

theorem bindArguments_improper {arguments : Value} (improper : ¬ arguments.isList) (world : World) :
    closure.bindArguments arguments world = .error (.notAList arguments) world := by
  rw [bindArguments, argumentScope, Value.elements_improper improper]
  rfl

theorem bindArguments_miscounted {values : List Value} (miscounted : values.length ≠ closure.arity)
    (world : World) :
    closure.bindArguments (Value.ofList values) world
      = .error (.arity closure.toValue.render closure.arity values.length) world := by
  rw [bindArguments, argumentScope_ofList, if_neg miscounted]
  rfl

theorem bindArguments_counted {values : List Value} (counted : values.length = closure.arity)
    (world : World) :
    closure.bindArguments (Value.ofList values) world
      = .ok (closure.path.push world.store.size)
          ⟨(world.store.add (.ofBindings (closure.params.zip values))).2, world.output⟩ := by
  rw [bindArguments, argumentScope_ofList, if_pos counted]
  rfl

/-- **Adding the filled scope is filling a new scope step by step.** -/
theorem bindArguments_eq_bindInTurn (arguments : Value) :
    closure.bindArguments arguments = closure.bindInTurn arguments := by
  funext world
  by_cases proper : arguments.isList
  · obtain ⟨values, rfl⟩ := Value.isList_iff.mp proper
    rw [bindInTurn, Value.elements_ofList, bind_of_ok (EvalM.ofExcept_ok values world)]
    by_cases counted : values.length = closure.arity
    · have created : EvalM.addScope .empty world
          = .ok world.store.size ⟨(world.store.add .empty).2, world.output⟩ := rfl
      have filled := forM_define_created world.store .empty (closure.params.zip values) world.output
      rw [closure.bindArguments_counted counted, if_pos counted, bind_of_ok created, bind_of_ok filled]
      rfl
    · rw [closure.bindArguments_miscounted counted, if_neg counted]
      rfl
  · rw [closure.bindArguments_improper proper, bindInTurn, Value.elements_improper proper]
    rfl

/-! ### All or nothing -/

/-- **Binding arguments fails without a trace or adds exactly one scope.** What is no proper list and what has
the wrong number of elements is refused, and the world stays as it is. Otherwise one scope is added, under the
number of scopes so far; it binds precisely the parameters, each to the argument at the last position where
the parameter stands; all other scopes and the output stay as they are, and the body gets the captured path
with the new scope. Creating the scope first and making one binding after the other comes to the same. -/
theorem binding_all_or_nothing (arguments : Value) (world : World) :
    closure.bindArguments arguments = closure.bindInTurn arguments ∧
    (¬ arguments.isList →
      closure.bindArguments arguments world = .error (.notAList arguments) world) ∧
    ∀ values, arguments = .ofList values →
      (values.length ≠ closure.arity →
        closure.bindArguments arguments world
          = .error (.arity closure.toValue.render closure.arity values.length) world) ∧
      (values.length = closure.arity → ∃ (later : World) (scope : Scope),
        closure.bindArguments arguments world = .ok (closure.path.push world.store.size) later ∧
        later.output = world.output ∧
        later.store.size = world.store.size + 1 ∧
        (∀ id, later.store.scope? id =
          if id = world.store.size then some scope else world.store.scope? id) ∧
        scope.names = closure.params.eraseDups ∧
        ∀ name value, scope.get? name = some value ↔
          ∃ index, LastAt closure.params name index ∧ values[index]? = some value) := by
  refine ⟨closure.bindArguments_eq_bindInTurn arguments,
    fun improper => closure.bindArguments_improper improper world, ?_⟩
  rintro values rfl
  refine ⟨fun miscounted => closure.bindArguments_miscounted miscounted world, fun counted => ?_⟩
  refine ⟨_, .ofBindings (closure.params.zip values), closure.bindArguments_counted counted world, rfl,
    ScopeStore.size_add _ _, ScopeStore.scope?_add _ _, Scope.names_ofBindings_zip counted, ?_⟩
  exact fun name value => Scope.get?_ofBindings_zip_iff counted

/-- Of two parameters called `x` the second gets its argument, and `x` keeps the first place; one argument
fewer is refused, and so is what is no list. -/
theorem binding_all_or_nothing_repeated :
    let closure : Closure := ⟨["x", "y", "x"], .sym "x", ⟨[4]⟩⟩
    let world : World := ⟨⟨#[⟨[("x", .nil)]⟩, .empty], by decide⟩, "shown"⟩
    closure.bindArguments (.int 1) world = .error (.notAList (.int 1)) world ∧
      closure.bindArguments (.ofList [.int 1, .int 2]) world
        = .error (.arity closure.toValue.render 3 2) world ∧
      ∃ (later : World) (scope : Scope),
        closure.bindArguments (.ofList [.int 1, .int 2, .int 3]) world = .ok ⟨[2, 4]⟩ later ∧
        later.store.scope? 2 = some scope ∧ later.store.scope? 0 = world.store.scope? 0 ∧
        scope.names = ["x", "y"] ∧ scope.get? "x" = some (.int 3) := by
  intro closure world
  refine ⟨(closure.binding_all_or_nothing _ world).2.1 (by decide),
    ((closure.binding_all_or_nothing _ world).2.2 _ rfl).1 (by decide), ?_⟩
  obtain ⟨later, scope, bound, -, -, scopes, names, values⟩ :=
    ((closure.binding_all_or_nothing _ world).2.2 [.int 1, .int 2, .int 3] rfl).2 rfl
  refine ⟨later, scope, bound, scopes 2, scopes 0, names.trans (by decide), ?_⟩
  refine (values "x" (.int 3)).mpr ⟨2, ⟨rfl, fun index after => ?_⟩, rfl⟩
  rw [List.getElem?_eq_none after]
  nofun

end Closure

end SmallLisp
