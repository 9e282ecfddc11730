/-
**Evaluation keeps everything in order.**

From a sound store, a readable expression under a valid path leads to a sound store again, however
the evaluation ends: every value on the way is sound, every path under which an expression is
evaluated is valid, no fault is about a scope, about a mark that is no value or about a result of too
many digits, and the printed text is that of the values given to `println`.

* `Safe`: this property of a computation with a record, with one rule for each way in which
  computations are built;
* `soundness_lawful`: everything that evaluation does to the world and the record is safe;
* `safe_eval`: so evaluation is.

Scopes are only ever added, so what is sound stays sound; the sizes in `Safe` carry that along.
-/

import SmallLisp.Proofs.Eval.Builtin
import SmallLisp.Proofs.Eval.Upkeep
import SmallLisp.Proofs.Scope.Sound

namespace SmallLisp

/-! ### Records in order -/

/-- An entry in order while there are `size` scopes. -/
def Entry.Sound (size : Nat) : Entry → Prop
  | .begun expr path allocated => expr.isReadable ∧ path.Valid allocated
  | .returned value => value = .void ∨ value.Sound size
  | .created _ _ => True
  | .bound _ _ value => value.Sound size
  | .applied callable arguments =>
    callable.toValue.Sound size ∧ ∀ argument ∈ arguments, argument.Sound size

theorem Entry.Sound.mono {size larger : Nat} {entry : Entry} (sound : entry.Sound size)
    (le : size ≤ larger) : entry.Sound larger := by
  cases entry with
  | begun | created => exact sound
  | returned value => exact sound.imp_right fun known => known.mono le
  | bound id name value => exact Value.Sound.mono sound le
  | applied callable arguments =>
      exact ⟨sound.1.mono le, fun argument member => (sound.2 argument member).mono le⟩

/-- The number of scopes. -/
def Traced.size (traced : Traced World) : Nat := traced.state.store.size

/-- A world and its record in order. -/
structure Traced.Sound (traced : Traced World) : Prop where
  store : traced.state.store.Sound
  entries : ∀ entry ∈ traced.entries, entry.Sound traced.size
  output : traced.state.output = Trace.textOf (Trace.printed traced.entries)

namespace Traced

variable {start : Traced World}

/-- An entry keeps everything in order if the output grows by what the entry prints. -/
theorem Sound.log {entry : Entry} {output : String} (sound : start.Sound)
    (new : entry.Sound start.size)
    (written : output = start.state.output ++ Trace.textOf (Trace.printed? entry).toList) :
    Sound ⟨⟨start.state.store, output⟩, entry :: start.entries⟩ where
  store := sound.store
  entries := List.forall_mem_cons.mpr ⟨new, sound.entries⟩
  output := by rw [written, Trace.printed_cons, Trace.textOf_append, sound.output]

theorem Sound.note {entry : Entry} (sound : start.Sound) (new : entry.Sound start.size)
    (silent : Trace.printed? entry = none) : Sound ⟨start.state, entry :: start.entries⟩ := by
  refine sound.log new ?_
  rw [silent]
  exact String.append_empty.symm

/-- A store that is sound and has lost no scope keeps everything in order. -/
theorem Sound.withStore {store : ScopeStore} (sound : start.Sound) (kept : store.Sound)
    (le : start.size ≤ store.size) : Sound ⟨⟨store, start.state.output⟩, start.entries⟩ where
  store := kept
  entries entry member := (sound.entries entry member).mono le
  output := sound.output

/-- Everything is in order later, and no scope is lost. -/
structure Grows (start later : Traced World) : Prop where
  sound : later.Sound
  le : start.size ≤ later.size

theorem Sound.grows (sound : start.Sound) : start.Grows start := ⟨sound, le_rfl⟩

theorem Grows.trans {first second third : Traced World} (one : first.Grows second)
    (two : second.Grows third) : first.Grows third := ⟨two.sound, one.le.trans two.le⟩

end Traced

namespace Trace

/-! ### Computations that keep everything in order -/

/-- However a computation ends, everything is in order afterwards and no scope is lost; a value is
`good`, and a fault is ordinary. -/
def Safe {α : Type} (computation : TraceM World α) (start : Traced World)
    (good : Nat → α → Prop) : Prop :=
  Moves Traced.Grows (fun fault => fault.isOrdinary) computation start
    (fun value later => good later.size value)

/-- What an evaluation can give: nothing, or a sound value. -/
def Outcome (size : Nat) (value : Value) : Prop := value = .void ∨ value.Sound size

section Rules

variable {α β : Type} {start : Traced World} {good : Nat → α → Prop}

theorem Safe.pure {value : α} (sound : start.Sound) (holds : good start.size value) :
    Safe (Pure.pure value) start good := ⟨sound.grows, holds⟩

theorem Safe.bind {first : TraceM World α} {next : α → TraceM World β} {last : Nat → β → Prop}
    (safe : Safe first start good)
    (rest : ∀ value (middle : Traced World), start.Grows middle → good middle.size value →
      Safe (next value) middle last) : Safe (first >>= next) start last :=
  Moves.bind .trans safe rest

theorem Safe.note {entry : World → Entry} {next : Unit → TraceM World α} (sound : start.Sound)
    (new : (entry start.state).Sound start.size) (silent : printed? (entry start.state) = none)
    (rest : ∀ later : Traced World, later.Sound → later.size = start.size →
      Safe (next ()) later good) : Safe (Trace.note entry >>= next) start good := by
  have noted := rest ⟨start.state, entry start.state :: start.entries⟩ (sound.note new silent) rfl
  exact Ensures.mono noted (fun _ _ ⟨⟨laterSound, le⟩, holds⟩ => ⟨⟨laterSound, le⟩, holds⟩)
    fun _ _ ⟨⟨laterSound, le⟩, ordinary⟩ => ⟨⟨laterSound, le⟩, ordinary⟩

/-- A check that gives a good value or an ordinary fault. -/
theorem Safe.check {check : Except Fault α} (sound : start.Sound)
    (holds : ∀ value, check = .ok value → good start.size value)
    (ordinary : ∀ fault, check = .error fault → fault.isOrdinary) :
    Safe (observe (EvalM.ofExcept check)) start good := by
  refine ensures_observe.mpr (ensures_ofExcept.mpr ⟨fun value found => ?_, fun fault found => ?_⟩)
  · exact ⟨sound.grows, holds value found⟩
  · exact ⟨sound.grows, ordinary fault found⟩

end Rules

/-! ### The operations on the world -/

section Operations

variable {start : Traced World} (sound : start.Sound) {path : ScopePath}
  (valid : path.Valid start.size)
include sound

theorem safe_addScope {scope : Scope} (new : scope.Sound start.size) :
    Safe (observe (EvalM.addScope scope)) start
      (fun size id => ∀ outer : ScopePath, outer.Valid start.size → (outer.push id).Valid size) := by
  unfold Safe Moves
  rw [ensures_observe, ensures_addScope]
  have grown : (start.state.store.add scope).2.size = start.size + 1 := ScopeStore.size_add _ _
  have le : start.size ≤ (start.state.store.add scope).2.size := grown ▸ Nat.le_succ _
  refine ⟨⟨sound.withStore (sound.store.add new) le, le⟩, fun outer known => ?_⟩
  show (outer.push start.size).Valid (start.state.store.add scope).2.size
  rw [grown]
  exact known.push

include valid

theorem safe_evalSymbol (name : String) :
    Safe (observe (evalSymbol name path)) start (fun size value => value.Sound size) := by
  refine ensures_observe.mpr ?_
  unfold evalSymbol
  split
  · exact ⟨sound.grows, trivial⟩
  · obtain ⟨found, resolved, each⟩ := ScopeStore.resolve_of_valid sound.store valid name
    rw [ensures_bind, ensures_resolve, resolved]
    refine ⟨fun other same => ?_, fun fault failed => nomatch failed⟩
    cases same
    split
    · exact ⟨sound.grows, rfl⟩
    · exact ⟨sound.grows, rfl⟩
    · exact ⟨sound.grows, each _ rfl⟩

theorem safe_assign (name : String) {value : Value} (bound : value.Sound start.size) :
    Safe (assign path name value) start Outcome := by
  have known : start.state.store.contains path.current := by
    have bounds := valid.allocated _ path.current_mem_ids
    simpa [ScopeStore.contains, Traced.size, ScopeStore.size] using bounds
  have same : (start.state.store.bindAt path.current.toNat name value).size = start.size :=
    ScopeStore.size_bindAt _ _ _ _
  have defined : Safe (observe (EvalM.define path.current name value)) start
      (fun size _ => value.Sound size) := by
    refine ensures_observe.mpr (ensures_define.mpr ?_)
    rw [if_pos known]
    refine ⟨⟨sound.withStore (sound.store.bindAt bound _ name) same.ge, same.ge⟩, ?_⟩
    exact bound.mono same.ge
  refine defined.bind fun _ later grown kept => ?_
  exact .note grown.sound kept rfl fun last lastSound _ => .pure lastSound (.inl rfl)

theorem safe_close {params : List String} {body : Value}
    (named : ∀ param ∈ params, (Value.sym param).isReadable) (readable : body.isReadable) :
    Safe (close path params body) start Outcome := by
  refine (safe_addScope sound Scope.sound_empty).bind fun id middle grown pushed => ?_
  refine .note grown.sound trivial rfl fun later laterSound same => .pure laterSound (.inr ?_)
  refine ⟨named, readable, ?_⟩
  rw [same]
  exact pushed path valid

omit valid

theorem safe_bindArguments {procedure : Closure} (known : procedure.toValue.Sound start.size)
    {arguments : List Value} (each : ∀ argument ∈ arguments, argument.Sound start.size) :
    Safe (observe (procedure.bindArguments (Value.ofList arguments))) start
      (fun size inner => inner.Valid size) := by
  have checked : Safe (observe (EvalM.ofExcept (procedure.argumentScope (Value.ofList arguments))))
      start (fun size scope => scope.Sound size) := by
    refine .check sound (fun scope found => ?_) (fun fault failed => ?_)
    · obtain ⟨values, listed, found⟩ := bind_eq_ok_iff.mp found
      rw [Value.elements_ofList] at listed
      cases listed
      split at found <;> cases found
      exact Scope.sound_ofBindings fun binding member => each _ (List.of_mem_zip member).2
    · rcases bind_eq_error_iff.mp failed with failed | ⟨values, -, failed⟩
      · rw [Value.elements_ofList] at failed
        cases failed
      · split at failed <;> cases failed
        rfl
  rw [Closure.bindArguments, observe_bind]
  refine checked.bind fun scope middle grown new => ?_
  rw [observe_bind]
  refine (safe_addScope grown.sound new).bind fun id later more pushed => ?_
  exact .pure more.sound (pushed _ (known.2.2.mono grown.le))

end Operations

/-! ### Printing -/

section Printing

variable {tag : Builtin} {items : List Value}

theorem printed?_of_ne (other : tag ≠ .println) : printed? (.applied (.builtin tag) items) = none := by
  cases tag with
  | println => exact absurd rfl other
  | _ => rfl

/-- The record holds what a built-in prints. -/
theorem text_eq_textOf {result : Value} {text : String}
    (applied : tag.apply (Value.ofList items) = .ok (result, text)) :
    text = textOf (printed? (.applied (.builtin tag) items)).toList := by
  rcases (Builtin.apply_ok applied).2 with ⟨rfl, value, rfl, rfl⟩ | ⟨other, rfl⟩
  · exact String.append_empty.symm
  · rw [printed?_of_ne other]
    rfl

theorem printed?_of_failed {fault : Fault}
    (failed : tag.apply (Value.ofList items) = .error fault) :
    printed? (.applied (.builtin tag) items) = none := by
  by_cases prints : tag = .println
  · subst prints
    have several := (Builtin.apply_error failed).2 rfl
    rcases items with _ | ⟨value, _ | ⟨other, rest⟩⟩
    · rfl
    · exact absurd rfl several
    · rfl
  · exact printed?_of_ne prints

end Printing

theorem isOrdinary_of_isArithmeticFault {fault : Fault} (known : Builtin.isArithmeticFault fault)
    (short : fault ≠ .resultTooLong) : fault.isOrdinary := by
  cases fault with
  | resultTooLong => exact absurd rfl short
  | _ => first | rfl | cases known

/-! ### Evaluation -/

section Application

variable {start : Traced World} (sound : start.Sound) {arguments : List Value}
  (each : ∀ argument ∈ arguments, argument.Sound start.size)
include sound each

theorem safe_applyBuiltin (tag : Builtin) : Safe (applyBuiltin tag arguments) start Outcome := by
  have new : (Entry.applied (.builtin tag) arguments).Sound start.size := ⟨trivial, each⟩
  -- the entry comes before the text, so the output is behind the record in between
  unfold Safe Moves applyBuiltin
  rw [ensures_bind, ensures_note, ensures_observe, ensures_invoke]
  constructor
  · intro result text applied
    have written := congrArg (start.state.output ++ ·) (text_eq_textOf applied)
    have readable := (Builtin.apply_ok applied).1
    exact ⟨⟨sound.log new written, le_rfl⟩, .inr (Value.sound_of_isReadable _ readable)⟩
  · intro fault failed
    have short : fault ≠ .resultTooLong := by
      rintro rfl
      exact Builtin.apply_ne_resultTooLong (fun number member => each _ member) failed
    have ordinary := isOrdinary_of_isArithmeticFault (Builtin.apply_error failed).1 short
    exact ⟨⟨sound.note new (printed?_of_failed failed), le_rfl⟩, ordinary⟩

theorem safe_enter {procedure : Closure} (known : procedure.toValue.Sound start.size) :
    Safe (enter procedure arguments) start (fun size inner => inner.Valid size) := by
  refine .note sound ⟨known, each⟩ rfl fun noted notedSound same => ?_
  rw [← same] at known each
  refine (safe_bindArguments notedSound known each).bind fun inner middle grown valid => ?_
  refine .note grown.sound trivial rfl fun later laterSound same => .pure laterSound ?_
  rwa [same]

end Application

/-- Soundness as something to be kept. -/
def soundness : Upkeep where
  expr value := value.isReadable
  step := Traced.Grows
  value traced value := value.Sound traced.size
  path traced path := path.Valid traced.size
  allowed fault := fault.isOrdinary

/-- **Everything that evaluation does keeps everything in order.** -/
theorem soundness_lawful : soundness.Lawful where
  trans := .trans
  settled onward := onward.sound.grows
  value_mono onward known := known.mono onward.le
  path_mono onward valid := valid.mono onward.le
  parts := Bool.and_eq_true_iff.mp
  constant := Value.sound_of_isReadable _
  body known := known.2.1
  mark noValue readable := by rcases noValue with rfl | ⟨text, rfl⟩ <;> cases readable
  ordinary := id
  begun here readable valid := ⟨here.sound.note ⟨readable, valid⟩ rfl, le_rfl⟩
  returned here holds := ⟨here.sound.note holds rfl, le_rfl⟩
  symbol name here valid := safe_evalSymbol here.sound valid name
  assign name here valid bound := safe_assign here.sound valid name bound
  close here valid named readable := safe_close here.sound valid named readable
  applyBuiltin tag here each := safe_applyBuiltin here.sound each tag
  enter here known each := safe_enter here.sound each known

/-- **Evaluation keeps everything in order.** -/
theorem safe_eval (depth : Nat) {expr : Value} {path : ScopePath} {start : Traced World}
    (sound : start.Sound) (readable : expr.isReadable) (valid : path.Valid start.size) :
    Safe (eval depth expr path) start Outcome :=
  soundness_lawful.eval depth sound.grows readable valid

end Trace

end SmallLisp
