/-
**Definitions of functions, in any order.**

A top-level form `(define name (lambda (param ...) body))` evaluates nothing of the program: it adds one
empty scope and binds one name to a closure that captured it. So all that the order of such forms
decides is which scope each closure captures, and in which order the top level lists the names.

* `Definition.enter`: what carrying out a definition does to the store (`Definition.eval_form`);
* `Definition.stores_swap`: exchanging two definitions of different names exchanges two scopes;
* `Definition.stores_perm`: hence any order leads to stores that correspond;
* `definitions_commute`: no later program can tell in which order functions were defined.
-/

import Mathlib.Data.List.Nodup
import SmallLisp.Proofs.Session.History
import SmallLisp.Proofs.Session.Transcript

namespace SmallLisp

/-- The definition of a function at the top level. -/
structure Definition where
  name : String
  params : List String
  body : Value
  deriving DecidableEq, Repr

namespace Definition

/-- The `lambda` form of a definition. -/
def function (definition : Definition) : Value :=
  Value.ofList [.sym "lambda", Value.ofList (definition.params.map .sym), definition.body]

/-- A definition as a form. -/
def form (definition : Definition) : Value :=
  Value.ofList [.sym "define", .sym definition.name, definition.function]

/-- The closure that is bound if the scope `id` is created for it. -/
def closure (definition : Definition) (id : Int) : Value :=
  .lambda definition.params definition.body (ScopePath.top.push id)

/-- The store in which a definition was carried out. -/
def enter (store : ScopeStore) (definition : Definition) : ScopeStore :=
  (store.add .empty).2.bindAt 0 definition.name (definition.closure store.size)

/-! ### Evaluating definitions -/

theorem eval_function (definition : Definition) (depth : Nat) (world : World) :
    eval (depth + 1) definition.function .top world =
      .ok (definition.closure world.store.size)
        ⟨(world.store.add .empty).2, world.output⟩ := by
  rw [eval_succ, evalStep_eq, function, Value.shape_lambda]
  rfl

theorem eval_form_succ (definition : Definition) (depth : Nat) (world : World) :
    eval (depth + 1) definition.form .top world =
      evalShape (eval depth) definition.form .top (.define definition.name definition.function)
        world := by
  rw [eval_succ, evalStep_eq]
  rfl

/-- **A definition is carried out** if evaluations may be nested. -/
theorem eval_form (definition : Definition) (depth : Nat) (world : World) :
    eval (depth + 2) definition.form .top world =
      .ok .void ⟨enter world.store definition, world.output⟩ := by
  have top : (world.store.add .empty).2.contains ScopePath.top.current :=
    ScopeStore.contains_iff.mpr ⟨le_rfl, Int.natCast_pos.mpr (world.store.add .empty).2.size_pos⟩
  have defined : EvalM.define ScopePath.top.current definition.name
      (definition.closure world.store.size) ⟨(world.store.add .empty).2, world.output⟩
      = .ok () ⟨enter world.store definition, world.output⟩ := by
    rw [EvalM.define_apply, ScopeStore.define, if_pos top]
    rfl
  rw [eval_form_succ, evalShape, bind_of_ok (definition.eval_function depth world)]
  exact bind_of_ok defined

theorem eval_form_exhausted (definition : Definition) {depth : Nat} (few : depth < 2) (world : World) :
    eval depth definition.form .top world = .error .depthExhausted world := by
  rcases depth with _ | _ | depth
  · rfl
  · rw [eval_form_succ]
    rfl
  · omega

theorem evaluateAll_forms (definitions : List Definition) (done : List Value) (session : Session)
    (enough : 2 ≤ session.depth) :
    ∃ journal, Session.evaluateAll (definitions.map form) done session =
      .ok (done.reverse ++ List.replicate definitions.length .void)
        ⟨session.depth, ⟨definitions.foldl enter session.world.store, session.world.output⟩,
          journal⟩ := by
  induction definitions generalizing done session with
  | nil =>
      refine ⟨session.journal, ?_⟩
      rw [List.length_nil, List.replicate_zero, List.append_nil]
      rfl
  | cons definition rest ih =>
      obtain ⟨depth, deep⟩ := Nat.exists_eq_add_of_le' enough
      have carried : eval session.depth definition.form .top session.world =
          .ok .void ⟨enter session.world.store definition, session.world.output⟩ := by
        rw [deep]
        exact definition.eval_form depth session.world
      have ended := Session.evaluate_of_ok carried
      obtain ⟨journal, others⟩ := ih (.void :: done)
        ⟨session.depth, ⟨enter session.world.store definition, session.world.output⟩, _⟩ enough
      refine ⟨journal, (bind_of_ok ended).trans (others.trans ?_)⟩
      rw [List.reverse_cons, List.append_assoc]
      rfl

theorem evaluateAll_forms_exhausted (definition : Definition) (rest : List Definition)
    {session : Session} (few : session.depth < 2) :
    Session.evaluateAll ((definition :: rest).map form) [] session =
      .error (.recursion (some "define"))
        ⟨session.depth, session.world, .evaluating definition.form :: session.journal⟩ :=
  bind_of_error (Session.evaluate_of_error (definition.eval_form_exhausted few session.world))

/-! ### The store after a definition -/

theorem size_enter (store : ScopeStore) (definition : Definition) :
    (enter store definition).size = store.size + 1 := by
  rw [enter, ScopeStore.size_bindAt, ScopeStore.size_add]

theorem scope?_enter_top (store : ScopeStore) (definition : Definition) :
    (enter store definition).scope? 0 =
      (store.scope? 0).map (·.define definition.name (definition.closure store.size)) := by
  have older : (0 : Int) ≠ store.size := (Int.natCast_pos.mpr store.size_pos).ne
  rw [enter, ScopeStore.scope?_bindAt, Int.natCast_zero, if_pos rfl, ScopeStore.scope?_add,
    ScopeStore.add_fst, if_neg older]

theorem scope?_enter (store : ScopeStore) (definition : Definition) {id : Int} (inner : id ≠ 0) :
    (enter store definition).scope? id = if id = store.size then some .empty else store.scope? id := by
  rw [enter, ScopeStore.scope?_bindAt, Int.natCast_zero, if_neg inner, ScopeStore.scope?_add,
    ScopeStore.add_fst]

/-- One of the two scopes that are created next. -/
def IsNext (store : ScopeStore) (id : Int) : Prop := id = store.size ∨ id = store.size + 1

theorem scope?_enter_next (store : ScopeStore) (first second : Definition) {id : Int}
    (next : IsNext store id) : (enter (enter store first) second).scope? id = some .empty := by
  have positive : 0 < store.size := store.size_pos
  have inner : id ≠ 0 := by
    rcases next with rfl | rfl <;> omega
  rw [scope?_enter _ _ inner, scope?_enter _ _ inner, size_enter]
  rcases next with rfl | rfl
  · rw [if_pos rfl, ite_self]
  · exact if_pos rfl

theorem scope?_enter_old (store : ScopeStore) (first second : Definition) {id : Int} (inner : id ≠ 0)
    (old : id < store.size) : (enter (enter store first) second).scope? id = store.scope? id := by
  rw [scope?_enter _ _ inner, scope?_enter _ _ inner, size_enter, if_neg (by omega),
    if_neg (by omega)]

theorem isReadable_body {definition : Definition} (readable : definition.form.isReadable) :
    definition.body.isReadable := by
  have parts := Value.isReadable_ofList.mp readable definition.function (by simp)
  exact Value.isReadable_ofList.mp parts definition.body (by simp)

theorem isReadable_params {definition : Definition} (readable : definition.form.isReadable) :
    ∀ param ∈ definition.params, (Value.sym param).isReadable := by
  have parts := Value.isReadable_ofList.mp readable definition.function (by simp)
  have named := Value.isReadable_ofList.mp parts (Value.ofList (definition.params.map .sym)) (by simp)
  exact fun param member => Value.isReadable_ofList.mp named _ (List.mem_map_of_mem member)

theorem sound_enter {store : ScopeStore} (sound : store.Sound) {definition : Definition}
    (readable : definition.form.isReadable) : (enter store definition).Sound := by
  refine (sound.add Scope.sound_empty).bindAt ?_ 0 definition.name
  refine ⟨isReadable_params readable, isReadable_body readable, ?_⟩
  rw [ScopeStore.size_add]
  exact (ScopePath.valid_top store.size_pos).push

/-! ### Corresponding stores -/

section Correspondence

variable {definition first second : Definition} {store left right : ScopeStore}

theorem closure_rename (readable : definition.form.isReadable) (map : Int → Int) (id : Int) :
    (definition.closure id).rename map = definition.closure (map id) := by
  rw [closure, Value.rename, Value.rename_of_isReadable (isReadable_body readable)]
  rfl

theorem closure_within (readable : definition.form.isReadable) {bijection : Renaming} {id : Int}
    (member : id ∈ bijection.source) : (definition.closure id).Within bijection.source := by
  refine ⟨Value.within_of_isReadable (isReadable_body readable) _, fun known isKnown => ?_⟩
  rw [ScopePath.ids_push, ScopePath.ids_top, List.singleton_append, List.mem_pair] at isKnown
  rcases isKnown with rfl | rfl
  · exact bijection.top_mem
  · exact member

/-- **The same definition keeps stores corresponding.** -/
theorem stores_enter {bijection : Renaming} (stores : bijection.Stores left right)
    (readable : definition.form.isReadable) :
    ∃ larger : Renaming, larger.Stores (enter left definition) (enter right definition) := by
  obtain ⟨larger, -, grown, member, mapped⟩ := stores.add bijection.binds_empty
  have bound := grown.bindAt larger.top_mem (closure_within readable member) definition.name
  rw [larger.map_top, closure_rename readable, mapped] at bound
  exact ⟨larger, bound⟩

theorem stores_foldl {definitions : List Definition}
    (readable : ∀ definition ∈ definitions, definition.form.isReadable)
    (stores : ∃ bijection : Renaming, bijection.Stores left right) :
    ∃ bijection : Renaming,
      bijection.Stores (definitions.foldl enter left) (definitions.foldl enter right) := by
  induction definitions generalizing left right with
  | nil => exact stores
  | cons definition rest ih =>
      obtain ⟨here, others⟩ := List.forall_mem_cons.mp readable
      obtain ⟨bijection, correspond⟩ := stores
      exact ih others (stores_enter correspond here)

/-- The renaming that exchanges the two scopes that are created next. -/
def exchange (store : ScopeStore) : Renaming :=
  have positive := store.size_pos
  .ofPerm (Equiv.swap (store.size : Int) (store.size + 1))
    (Equiv.swap_apply_of_ne_of_ne (by unfold ScopePath.topId ScopeStore.size; omega)
      (by unfold ScopePath.topId; omega))
    (Nat.succ_pos (store.size + 1))

theorem exchange_fixed {id : Int} (old : id < store.size) : (exchange store).map id = id :=
  Equiv.swap_apply_of_ne_of_ne (by omega) (by omega)

theorem exchange_first : (exchange store).map store.size = store.size + 1 :=
  Equiv.swap_apply_left _ _

theorem exchange_second : (exchange store).map (store.size + 1) = store.size :=
  Equiv.swap_apply_right _ _

theorem mem_exchange {id : Int} :
    id ∈ (exchange store).source ↔ 0 ≤ id ∧ id < store.size + 2 := Iff.rfl

/-- A scope keeps its number, or is one of the two that are exchanged. -/
theorem exchange_cases {id : Int} (member : id ∈ (exchange store).source) :
    (id < store.size ∧ (exchange store).map id = id) ∨
      (IsNext store id ∧ IsNext store ((exchange store).map id)) := by
  have bounds := mem_exchange.mp member
  by_cases old : id < store.size
  · exact .inl ⟨old, exchange_fixed old⟩
  · have next : IsNext store id := by
      unfold IsNext
      omega
    rcases next with rfl | rfl
    · exact .inr ⟨.inl rfl, .inr exchange_first⟩
    · exact .inr ⟨.inr rfl, .inl exchange_second⟩

/-- Two different names are bound to corresponding closures in either order. -/
theorem binds_swap (readable : first.form.isReadable) (readableToo : second.form.isReadable)
    (different : first.name ≠ second.name) {scope : Scope}
    (binds : (exchange store).Binds scope scope) :
    (exchange store).Binds
      ((scope.define first.name (first.closure store.size)).define second.name
        (second.closure (store.size + 1)))
      ((scope.define second.name (second.closure store.size)).define first.name
        (first.closure (store.size + 1))) := by
  have created : (store.size : Int) ∈ (exchange store).source := mem_exchange.mpr (by omega)
  have createdNext : (store.size + 1 : Int) ∈ (exchange store).source := mem_exchange.mpr (by omega)
  have one := binds.define (closure_within readable created) first.name
  have both := one.define (closure_within readableToo createdNext) second.name
  rw [closure_rename readable, closure_rename readableToo, exchange_first, exchange_second] at both
  intro asked
  refine ⟨?_, (both asked).2⟩
  rw [← (both asked).1]
  simp only [Scope.get?_define]
  by_cases isFirst : asked = first.name
  · subst isFirst
    rw [if_pos rfl, if_neg different, if_pos rfl]
  · rw [if_neg isFirst, if_neg isFirst]

/-- **Exchanging two definitions exchanges two scopes.** -/
theorem stores_swap (sound : store.Sound) (readable : first.form.isReadable)
    (readableToo : second.form.isReadable) (different : first.name ≠ second.name) :
    (exchange store).Stores (enter (enter store first) second) (enter (enter store second) first) := by
  have kept : ∀ id scope, store.scope? id = some scope → (exchange store).Binds scope scope := by
    intro id scope found
    refine Scope.Sound.binds (fun old member => ?_) (fun old member => ?_) (sound id scope found)
    · exact mem_exchange.mpr ⟨member.1, member.2.trans (by omega)⟩
    · exact exchange_fixed member.2
  refine ⟨fun id member => ?_, ?_, fun id member scope other found foundOther => ?_⟩
  · rw [ScopeStore.contains_iff, size_enter, size_enter]
    exact member
  · rintro _ ⟨id, member, rfl⟩
    rw [ScopeStore.contains_iff, size_enter, size_enter]
    change 0 ≤ (exchange store).map id ∧ (exchange store).map id < _
    have bounds := mem_exchange.mp member
    rcases exchange_cases member with ⟨-, same⟩ | ⟨-, here | next⟩ <;> omega
  · rcases exchange_cases member with ⟨old, same⟩ | ⟨next, renamed⟩
    · rw [same] at foundOther
      by_cases top : id = 0
      · subst top
        rw [scope?_enter_top, scope?_enter_top, size_enter, Option.map_map] at found foundOther
        obtain ⟨here, isTop, rfl⟩ := Option.map_eq_some_iff.mp found
        obtain ⟨again, isTopToo, rfl⟩ := Option.map_eq_some_iff.mp foundOther
        obtain rfl := Option.some.inj (isTop.symm.trans isTopToo)
        exact binds_swap readable readableToo different (kept 0 here isTop)
      · rw [scope?_enter_old store _ _ top old] at found foundOther
        obtain rfl := Option.some.inj (found.symm.trans foundOther)
        exact kept id scope found
    · rw [scope?_enter_next store _ _ next] at found
      rw [scope?_enter_next store _ _ renamed] at foundOther
      cases found
      cases foundOther
      exact (exchange store).binds_empty

/-- **Definitions in any order** lead to stores that correspond. -/
theorem stores_perm {definitions permuted : List Definition} (perm : definitions.Perm permuted)
    (sound : store.Sound) (readable : ∀ definition ∈ definitions, definition.form.isReadable)
    (distinct : (definitions.map name).Nodup) :
    ∃ bijection : Renaming,
      bijection.Stores (definitions.foldl enter store) (permuted.foldl enter store) := by
  induction perm generalizing store with
  | nil => exact ⟨_, sound.stores⟩
  | cons definition perm ih =>
      obtain ⟨here, others⟩ := List.forall_mem_cons.mp readable
      exact ih (sound_enter sound here) others (List.nodup_cons.mp distinct).2
  | swap second first rest =>
      obtain ⟨readableFirst, others⟩ := List.forall_mem_cons.mp readable
      obtain ⟨readableSecond, readableRest⟩ := List.forall_mem_cons.mp others
      have different : first.name ≠ second.name := by
        intro same
        exact (List.nodup_cons.mp distinct).1 (same ▸ List.mem_cons_self)
      have swapped := stores_swap sound readableFirst readableSecond different
      have goesOn := stores_foldl readableRest ⟨_, swapped⟩
      exact goesOn
  | @trans definitions middle permuted one two ihOne ihTwo =>
      obtain ⟨_, stores⟩ := ihOne sound readable distinct
      obtain ⟨_, storesToo⟩ := ihTwo sound
        (fun definition member => readable definition (one.mem_iff.mpr member))
        ((one.map name).nodup_iff.mp distinct)
      exact ⟨_, stores.comp storesToo⟩

end Correspondence

end Definition

open Definition (form enter)

/-- **The order of definitions cannot be told.** After any requests, the definitions of functions with
different names are carried out in two orders. They give the same results, or fail in the same way if
there is no room to evaluate them; and whatever texts are run afterwards, each of their forms gives the
same value or the same fault in both sessions, and prints the same. -/
theorem definitions_commute {session : Session} {entries : List Entry} {values : List Value}
    (history : History session entries values) {definitions permuted : List Definition}
    (readable : ∀ definition ∈ definitions, definition.form.isReadable)
    (distinct : (definitions.map Definition.name).Nodup) (perm : definitions.Perm permuted) :
    Together (Session.evaluateAll (definitions.map form) [])
      (Session.evaluateAll (permuted.map form) []) session session
      (fun results later others last =>
        others = results ∧ ∀ codes, last.transcript codes = later.transcript codes)
      (fun fault later other last =>
        other = fault ∧ ∀ codes, last.transcript codes = later.transcript codes) := by
  have sound : session.world.store.Sound := history.sound.1.store
  by_cases enough : 2 ≤ session.depth
  · obtain ⟨journal, ended⟩ := Definition.evaluateAll_forms definitions [] session enough
    obtain ⟨other, endedToo⟩ := Definition.evaluateAll_forms permuted [] session enough
    have stores := Definition.stores_perm perm sound readable distinct
    refine .of_ok ended endedToo ⟨by rw [perm.length_eq], fun codes => ?_⟩
    refine Session.Corresponds.transcript ?_ codes
    exact ⟨rfl, rfl, stores⟩
  · have few : session.depth < 2 := Nat.lt_of_not_le enough
    have same : ∀ journal others : List Event,
        Session.Corresponds ⟨session.depth, session.world, journal⟩
          ⟨session.depth, session.world, others⟩ := fun _ _ => ⟨rfl, rfl, _, sound.stores⟩
    cases definitions with
    | nil =>
        obtain rfl := perm.nil_eq
        exact ⟨rfl, fun _ => rfl⟩
    | cons definition rest =>
        cases permuted with
        | nil => exact absurd perm.length_eq (by simp)
        | cons other others =>
            exact .of_faults (Definition.evaluateAll_forms_exhausted definition rest few)
              (Definition.evaluateAll_forms_exhausted other others few)
              ⟨rfl, fun codes => (same _ _).transcript codes⟩

/-- The definition of `name` as `(lambda (n) (if (= n zero) atZero (other (- n 1))))`. -/
def parity (name other : String) (atZero : Bool) : Definition where
  name := name
  params := ["n"]
  body := Value.ofList [.sym "if", Value.ofList [.sym "=", .sym "n", .sym "zero"], .bool atZero,
    Value.ofList [.sym other, Value.ofList [.sym "-", .sym "n", .int 1]]]

/-- Two functions that call each other. -/
def parities : List Definition := [parity "even" "odd" true, parity "odd" "even" false]

/-- The second form fails. -/
def zeroDefined : Request := .run "(define zero 0) (zero)"

theorem definitions_commute_mutual :
    parities.reverse.map Definition.name = ["odd", "even"] ∧
    (after (Session.evaluateAll (parities.reverse.map form) [])
      (after zeroDefined.perform (.fresh 9))).transcript
        ["(even 1) (define even odd)", "(println (even 1)) even (odd)"] =
      [[⟨.ok (some "false"), ""⟩, ⟨.ok none, ""⟩],
        [⟨.ok (some "()"), "false\n"⟩, ⟨.ok (some "#<lambda (n)>"), "false\n"⟩,
          ⟨.error (some .arity, "#<lambda (n)>: expected 1 arguments, found 0"), "false\n"⟩]] := by
  have readable : ∀ definition ∈ parities, definition.form.isReadable := by decide +kernel
  -- for an arbitrary session, so that no session is computed before its transcript is
  have same : ∀ {session entries values}, History session entries values → ∀ codes,
      (after (Session.evaluateAll (parities.reverse.map form) []) session).transcript codes =
        (after (Session.evaluateAll (parities.map form) []) session).transcript codes := by
    intro session entries values history
    have both := definitions_commute history readable (by decide) parities.reverse_perm.symm
    exact both.afters (fun later last => ∀ codes, last.transcript codes = later.transcript codes)
      (fun _ _ _ _ ended => ended.2) fun _ _ _ _ ended => ended.2
  refine ⟨rfl, ?_⟩
  rw [same (History.next zeroDefined (.fresh 9))]
  decide +kernel

end SmallLisp
