/-
**What holds in every session.**

The invariants of sessions that are driven by source texts, the first two read off `History.sound`, the
third off `History.regular`:

* `captured_paths_valid`: every closure that is bound or was returned has a valid path, every
  expression is evaluated under one, and so no request fails for want of a scope;
* `values_workable`: every value that is returned, bound, passed or printed is a function of the
  program or readable, no mark is ever evaluated, and the printed text reads back as the printed
  values as long as none of them is a function;
* `captured_scopes_empty`: the scopes that `lambda` forms create stay empty for ever, so that no look-up
  depends on them.
-/

import SmallLisp.Proofs.Eval.Capture
import SmallLisp.Proofs.Reader.RoundTrip
import SmallLisp.Proofs.Session.History

namespace SmallLisp

/-! ### Captured paths -/

theorem Trace.Outcome.valid {size : Nat} {params : List String} {body : Value} {path : ScopePath}
    (known : Outcome size (.lambda params body path)) : path.Valid size :=
  (known.resolve_left (by nofun)).2.2

theorem Fault.kind?_ne_scope {fault : Fault} (ordinary : fault.isOrdinary) :
    fault.kind? ≠ some .scope := by
  cases fault with
  | noScope | pathNotFromTop => cases ordinary
  | _ =>
      intro same
      cases same

/-- **Captured paths stay valid.** After any requests, failed ones included, every closure that is
bound in any scope or was returned, to the session or inside an evaluation, has captured a valid
path, every evaluation was begun under a path that was valid then, and no further request fails with
a fault about scopes. -/
theorem captured_paths_valid {session : Session} {entries : List Entry} {values : List Value}
    (history : History session entries values) :
    (∀ id scope, session.world.store.scope? id = some scope → ∀ name params body path,
      (name, Value.lambda params body path) ∈ scope.bindings →
      path.Valid session.world.store.size) ∧
    (∀ params body path, Value.lambda params body path ∈ values →
      path.Valid session.world.store.size) ∧
    (∀ params body path, Entry.returned (.lambda params body path) ∈ entries →
      path.Valid session.world.store.size) ∧
    (∀ expr path size, Entry.begun expr path size ∈ entries → path.Valid size) ∧
    ∀ (request : Request) (fault : Fault) (later : Session),
      request.perform session = .error fault later → fault.kind? ≠ some .scope := by
  obtain ⟨sound, known⟩ := history.sound
  refine ⟨?_, ?_, ?_, ?_, ?_⟩
  · intro id scope found name params body path member
    exact (sound.store id scope found _ member).2.2
  · intro params body path member
    exact (known _ member).valid
  · intro params body path member
    exact Trace.Outcome.valid (sound.entries _ member)
  · intro expr path size member
    exact (sound.entries _ member).2
  · intro request fault later failed
    have ended := Trace.ensures_perform request sound
    unfold Ensures at ended
    rw [failed] at ended
    exact Fault.kind?_ne_scope ended

/-- The second form fails in the body of the closure that the first one binds. -/
def nestedClosures : Request := .run "(define f ((lambda (n) (lambda (m) (+ n m))) 2)) (f true)"

theorem captured_paths_valid_nested :
    (⟨[3, 2, 1]⟩ : ScopePath).Valid (after nestedClosures.perform (.fresh 9)).world.store.size ∧
      .begun (Value.ofList [.sym "+", .sym "n", .sym "m"]) ⟨[4, 3, 2, 1]⟩ 5 ∈
        (after (Trace.perform nestedClosures) ⟨.fresh 9, []⟩).entries ∧
      (⟨[4, 3, 2, 1]⟩ : ScopePath).Valid 5 := by
  have bound : (after nestedClosures.perform (.fresh 9)).world.store.scope? 0 =
      some ⟨[("f", .lambda ["m"] (Value.ofList [.sym "+", .sym "n", .sym "m"]) ⟨[3, 2, 1]⟩)]⟩ := by
    decide +kernel
  have begun : .begun (Value.ofList [.sym "+", .sym "n", .sym "m"]) ⟨[4, 3, 2, 1]⟩ 5 ∈
      (after (Trace.perform nestedClosures) ⟨.fresh 9, []⟩).entries := by decide +kernel
  have history := History.next nestedClosures (.fresh 9)
  obtain ⟨captured, -, -, evaluated, -⟩ := captured_paths_valid history
  exact ⟨captured 0 _ bound "f" _ _ _ List.mem_cons_self, begun, evaluated _ _ _ begun⟩

/-! ### Values and output -/

/-- What a session works with: a built-in, a closure whose parameters and body are readable, or a
readable value. -/
def Value.isWorkable : Value → Bool
  | .builtin _ => true
  | .lambda params body _ => params.all (fun param => (Value.sym param).isReadable) && body.isReadable
  | value => value.isReadable

theorem Value.Sound.isWorkable {size : Nat} {value : Value} (sound : value.Sound size) :
    value.isWorkable := by
  cases value with
  | builtin tag => rfl
  | lambda params body path =>
      rw [Value.isWorkable, Bool.and_eq_true, List.all_eq_true]
      exact ⟨sound.1, sound.2.1⟩
  | _ => exact sound

namespace Trace

theorem Outcome.isWorkable {size : Nat} {value : Value} (known : Outcome size value) :
    value = .void ∨ value.isWorkable := known.imp_right Value.Sound.isWorkable

theorem printed?_eq_some {entry : Entry} {value : Value} (found : printed? entry = some value) :
    entry = .applied (.builtin .println) [value] := by
  unfold printed? at found
  split at found
  · cases found
    rfl
  · cases found

theorem mem_printed {entries : List Entry} {value : Value} :
    value ∈ printed entries ↔ .applied (.builtin .println) [value] ∈ entries := by
  rw [printed, List.mem_filterMap]
  constructor
  · rintro ⟨entry, member, found⟩
    rw [← printed?_eq_some found]
    exact List.mem_reverse.mp member
  · exact fun member => ⟨_, List.mem_reverse.mpr member, rfl⟩

/-- Printed values stand on lines of their own. -/
theorem spaced_textOf (values : List Value) : Value.Spaced (values.map Value.render) (textOf values) := by
  induction values with
  | nil => exact .nil
  | cons value rest ih =>
      have blank : ∀ c ∈ "\n".toList, Text.isBlank c := List.all_eq_true.mp (by decide)
      exact .cons value.render "\n" blank (fun _ => by decide) ih

end Trace

open Trace (printed textOf)

/-- **A session only works with values of the program, and its output reads back.** After any
requests, failed ones included, whatever was returned, bound, passed or printed is workable, except
that a definition returns no value; no further request fails because a mark was evaluated; and the
output is the text of the printed values. As long as none of these was a function, the text up to
then reads back as exactly these values; the reader needs as much room as they are nested. -/
theorem values_workable {session : Session} {entries : List Entry} {values : List Value}
    (history : History session entries values) :
    (∀ value ∈ values, value = .void ∨ value.isWorkable) ∧
    (∀ value, Entry.returned value ∈ entries → value = .void ∨ value.isWorkable) ∧
    (∀ id scope, session.world.store.scope? id = some scope →
      ∀ binding ∈ scope.bindings, binding.2.isWorkable) ∧
    (∀ id name value, Entry.bound id name value ∈ entries → value.isWorkable) ∧
    (∀ callable arguments, Entry.applied callable arguments ∈ entries →
      callable.toValue.isWorkable ∧ ∀ argument ∈ arguments, argument.isWorkable) ∧
    (∀ value ∈ printed entries, value.isWorkable) ∧
    (∀ (request : Request) (fault : Fault) (later : Session),
      request.perform session = .error fault later → ∀ value, fault ≠ .notEvaluable value) ∧
    session.world.output = textOf (printed entries) ∧
    ∀ (room : Nat) (earlier : List Entry), earlier <:+ entries →
      (∀ value ∈ printed earlier, value.isFunction = false ∧ value.nesting ≤ room) →
      parse room (textOf (printed earlier)) = .ok (printed earlier) := by
  obtain ⟨sound, known⟩ := history.sound
  have passed : ∀ callable arguments, Entry.applied callable arguments ∈ entries →
      callable.toValue.Sound session.world.store.size ∧
        ∀ argument ∈ arguments, argument.Sound session.world.store.size :=
    fun callable arguments member => sound.entries _ member
  have shown : ∀ value ∈ printed entries, value.Sound session.world.store.size :=
    fun value member => (passed _ _ (Trace.mem_printed.mp member)).2 value List.mem_cons_self
  refine ⟨?_, ?_, ?_, ?_, ?_, ?_, ?_, sound.output, ?_⟩
  · exact fun value member => (known value member).isWorkable
  · exact fun value member => Trace.Outcome.isWorkable (sound.entries _ member)
  · exact fun id scope found binding member => (sound.store id scope found binding member).isWorkable
  · exact fun id name value member => Value.Sound.isWorkable (sound.entries _ member)
  · intro callable arguments member
    obtain ⟨applied, each⟩ := passed callable arguments member
    exact ⟨applied.isWorkable, fun argument listed => (each argument listed).isWorkable⟩
  · exact fun value member => (shown value member).isWorkable
  · intro request fault later failed value same
    have ended := Trace.ensures_perform request sound
    unfold Ensures at ended
    rw [failed, same] at ended
    cases ended
  · intro room earlier before plain
    refine Value.parse_spaced room (fun value member => ?_) (Trace.spaced_textOf _)
    obtain ⟨noFunction, nested⟩ := plain value member
    have later := Trace.mem_printed.mpr (before.subset (Trace.mem_printed.mp member))
    exact ⟨(shown value later).isReadable noFunction, nested⟩

/-- Two lines are printed before the third form fails. -/
def twoLines : Request := .run "(println '(a . 2))(println \"x;\")(println)"

theorem values_workable_twoLines :
    (after twoLines.perform (.fresh 9)).world.output = "(a . 2)\n\"x;\"\n" ∧
      parse 9 "(a . 2)\n\"x;\"\n" = .ok [.pair (.sym "a") (.int 2), .str "x;"] := by
  have given : printed (after (Trace.perform twoLines) ⟨.fresh 9, []⟩).entries =
      [.pair (.sym "a") (.int 2), .str "x;"] := by decide +kernel
  have written : textOf [.pair (.sym "a") (.int 2), .str "x;"] = "(a . 2)\n\"x;\"\n" := by
    decide +kernel
  have history := History.next twoLines (.fresh 9)
  obtain ⟨-, -, -, -, -, -, -, output, reads⟩ := values_workable history
  have back := reads 9 _ List.suffix_rfl
  rw [given, written] at back output
  exact ⟨output, back (by decide +kernel)⟩

/-! ### Captured scopes -/

/-- **The record of a history is regular**, and leads to the store of its session. -/
theorem History.regular {session : Session} {entries : List Entry} {values : List Value}
    (history : History session entries values) : Traced.Regular ⟨session.world, entries⟩ := by
  refine history.holds ⟨rfl, trivial⟩ fun depth form start readable regular => ?_
  exact (Trace.continues_eval depth regular readable .top).regular

/-- **The scopes that `lambda` forms create stay empty.** After any requests, failed ones included, the
store is what its record leads to. At each moment of the record, every path under which an expression was
evaluated is the top level followed by pairs of a scope that a `lambda` form created and a scope of a
call, so its innermost scope is the top level or that of a call; the scopes that `lambda` forms created
are empty, and nothing is bound in them at that time, before or after; and any path resolves any name
alike if they are left out of it. -/
theorem captured_scopes_empty {session : Session} {entries : List Entry} {values : List Value}
    (history : History session entries values) :
    session.world.store = Trace.replay entries ∧
    (∀ expr path size earlier, .begun expr path size :: earlier <:+ entries →
      size = (Trace.replay earlier).size ∧ path.Paired earlier ∧
      (path.current = ScopePath.topId ∨ .created .call path.current ∈ earlier)) ∧
    ∀ earlier, earlier <:+ entries →
      (∀ id, .created .lambda id ∈ earlier →
        (Trace.replay earlier).scope? id = some .empty ∧
        id ≠ ScopePath.topId ∧ .created .call id ∉ entries ∧
        ∀ name value, .bound id name value ∉ entries) ∧
      ∀ path name, (Trace.replay earlier).resolve (path.without (Trace.captured earlier)) name
        = (Trace.replay earlier).resolve path name := by
  obtain ⟨store, regular⟩ := history.regular
  refine ⟨store, fun expr path size earlier before => ?_, fun earlier before => ⟨fun id captured => ?_, ?_⟩⟩
  · obtain ⟨paired, counted⟩ := (regular.of_suffix before).1
    exact ⟨counted, paired, paired.current⟩
  · have everAfter := before.subset captured
    refine ⟨(regular.of_suffix before).empty captured, ?_, regular.not_call everAfter, ?_⟩
    · exact (regular.bounds everAfter).1.ne'
    · exact regular.unbound everAfter
  · exact (regular.of_suffix before).resolve_without

/-- A definition in the body of a closure that was made in a call, and a call that fails. -/
def bodyDefinition : Request := .run "((lambda (n) ((lambda (m) (define k m)) n)) 7) (k)"

/-- The record of it. -/
def bodyEntries : List Entry := (after (Trace.perform bodyDefinition) ⟨.fresh 9, []⟩).entries

theorem captured_scopes_empty_body :
    .bound 4 "k" (.int 7) ∈ bodyEntries ∧
    (⟨[4, 3, 2, 1]⟩ : ScopePath).Paired (bodyEntries.drop 8) ∧
    (after bodyDefinition.perform (.fresh 9)).world.store.scope? 3 = some .empty ∧
    (after bodyDefinition.perform (.fresh 9)).world.store.resolve ⟨[4, 2]⟩ "n"
      = (after bodyDefinition.perform (.fresh 9)).world.store.resolve ⟨[4, 3, 2, 1]⟩ "n" := by
  have evaluated : .begun (.sym "m") ⟨[4, 3, 2, 1]⟩ 5 :: bodyEntries.drop 8 = bodyEntries.drop 7 := by
    decide +kernel
  have captured : Trace.captured bodyEntries = [3, 1] := by decide +kernel
  have history := History.next bodyDefinition (.fresh 9)
  obtain ⟨store, begun, always⟩ := captured_scopes_empty history
  obtain ⟨empty, alike⟩ := always bodyEntries List.suffix_rfl
  have same := alike ⟨[4, 3, 2, 1]⟩ "n"
  rw [captured] at same
  refine ⟨by decide +kernel, ?_, ?_, ?_⟩
  · exact (begun _ _ _ _ (evaluated ▸ List.drop_suffix 7 bodyEntries)).2.1
  · rw [store]
    exact (empty 3 (Trace.mem_captured.mp (captured ▸ List.mem_cons_self))).1
  · rw [store]
    exact same

end SmallLisp
