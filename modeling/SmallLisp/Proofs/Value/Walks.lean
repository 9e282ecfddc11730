/-
**One account of a value for all walks over it.**

Testing, counting, collecting, taking apart and mapping each walk along a chain of pairs on their own.
They agree because every value is a chain in exactly one way (`existsUnique_chain`), and what each walk
comes to depends on the items of that chain and on its end only. The walks to the end ask whether the end is
the empty list, and the others are these:

* `leading_chain`: elements are taken one by one, as many as there are items whatever the end, and one more
  fails as the end says. `head`, `take2` and `take3` take one, two and three in this way;
* `mapList_chain`: a map acts on the items from left to right, or on none if the end is wrong.
-/

import SmallLisp.Proofs.Eval.Arguments

namespace SmallLisp.Value

variable {items others : List Value} {tail last : Value}

/-! ### One chain for each value -/

theorem chain_injective (notPair : tail.isPair = false) (lastNotPair : last.isPair = false)
    (same : chain items tail = chain others last) : items = others ∧ tail = last := by
  induction items generalizing others with
  | nil =>
      cases others with
      | nil => exact ⟨rfl, same⟩
      | cons other others =>
          rw [chain_nil] at same
          rw [same] at notPair
          cases notPair
  | cons item items ih =>
      cases others with
      | nil =>
          rw [chain_nil] at same
          rw [← same] at lastNotPair
          cases lastNotPair
      | cons other others =>
          rw [chain_cons, chain_cons, pair.injEq] at same
          obtain ⟨rfl, sameRest⟩ := same
          obtain ⟨rfl, rfl⟩ := ih sameRest
          exact ⟨rfl, rfl⟩

/-- **Every value is a chain in exactly one way**, if the end is to be no pair. -/
theorem existsUnique_chain (value : Value) :
    ∃! parts : List Value × Value, parts.2.isPair = false ∧ chain parts.1 parts.2 = value := by
  obtain ⟨items, tail, rfl, notPair⟩ := exists_chain value
  refine ⟨(items, tail), ⟨notPair, rfl⟩, ?_⟩
  rintro ⟨others, last⟩ ⟨lastNotPair, same⟩
  obtain ⟨rfl, rfl⟩ := chain_injective lastNotPair notPair same
  rfl

/-! ### Taking elements one by one -/

/-- The fault of asking for an element where a chain has ended. -/
def endFault (tail : Value) : Fault := if tail = .nil then .emptyList else .notAList tail

/-- The first `count` elements of a list, taken one by one; further ones are ignored. -/
def leading : Nat → Value → Except Fault (List Value)
  | 0, _ => .ok []
  | count + 1, value => do
    let (first, rest) ← splitHead value
    return first :: (← leading count rest)

theorem splitHead_end (notPair : tail.isPair = false) : splitHead tail = .error (endFault tail) := by
  cases tail with
  | pair => cases notPair
  | _ => rfl

theorem splitHead_chain (notPair : tail.isPair = false) (items : List Value) :
    splitHead (chain items tail) =
      match items with
      | first :: rest => .ok (first, chain rest tail)
      | [] => .error (endFault tail) := by
  cases items with
  | nil => exact splitHead_end notPair
  | cons first rest => rfl

/-- **Elements are taken as long as there are items**, and one more fails as the end says. -/
theorem leading_chain (notPair : tail.isPair = false) (count : Nat) (items : List Value) :
    leading count (chain items tail)
      = if count ≤ items.length then .ok (items.take count) else .error (endFault tail) := by
  induction count generalizing items with
  | zero => simp [leading]
  | succ count ih =>
      rw [leading, splitHead_chain notPair]
      cases items with
      | nil => rfl
      | cons item items =>
          show (do return item :: (← leading count (chain items tail))) = _
          rw [ih items]
          by_cases enough : count ≤ items.length
          · simp [enough, pure, Except.pure, bind, Except.bind]
          · simp [enough, bind, Except.bind]

theorem head_eq_leading (value : Value) : (do return [← head value]) = leading 1 value := by
  simp only [head, leading, bind_assoc, pure_bind]
  rfl

theorem take2_eq_leading (value : Value) :
    (do let (first, second) ← take2 value; return [first, second]) = leading 2 value := by
  simp only [take2, leading, bind_assoc, pure_bind]
  rfl

theorem take3_eq_leading (value : Value) :
    (do let (first, second, third) ← take3 value; return [first, second, third])
      = leading 3 value := by
  simp only [take3, leading, bind_assoc, pure_bind]
  rfl

/-! ### Mapping -/

/-- **A map acts on the items**, or on nothing at all if the chain ends in anything but the empty list. -/
theorem mapList_chain {m : Type → Type} [Monad m] [MonadExcept Fault m] (act : Value → m Value)
    (notPair : tail.isPair = false) (items : List Value) :
    mapList act (chain items tail) =
      if tail = .nil then do return ofList (← items.mapM act)
      else throw (.notAList (chain items tail)) := by
  rw [mapList, elements_chain notPair]
  by_cases proper : tail = .nil
  · rw [if_pos proper, if_pos proper]
  · rw [if_neg proper, if_neg proper]

theorem chain_eq_ofList_iff (notPair : tail.isPair = false) :
    chain items tail = ofList others ↔ items = others ∧ tail = .nil := by
  constructor
  · exact chain_injective notPair rfl
  · rintro ⟨rfl, rfl⟩
    rfl

section Endings

variable {σ : Type} {act : Value → EStateM Fault σ Value} {start later : σ}

theorem mapList_chain_eq_ok_iff (notPair : tail.isPair = false) {result : Value} :
    mapList act (chain items tail) start = .ok result later ↔
      tail = .nil ∧ ∃ values, InTurn act items start values later ∧ result = ofList values := by
  simp only [mapList_eq_ok_iff, chain_eq_ofList_iff notPair]
  constructor
  · rintro ⟨_, values, ⟨rfl, proper⟩, each, same⟩
    exact ⟨proper, values, each, same⟩
  · rintro ⟨proper, values, each, same⟩
    exact ⟨items, values, ⟨rfl, proper⟩, each, same⟩

theorem mapList_chain_eq_error_iff (notPair : tail.isPair = false) {fault : Fault} :
    mapList act (chain items tail) start = .error fault later ↔
      (tail ≠ .nil ∧ fault = .notAList (chain items tail) ∧ later = start) ∨
        tail = .nil ∧ FailsInTurn act start fault later items := by
  simp only [mapList_eq_error_iff, chain_eq_ofList_iff notPair, isList_chain_iff notPair]
  refine or_congr_right ⟨?_, ?_⟩
  · rintro ⟨_, ⟨rfl, proper⟩, failed⟩
    exact ⟨proper, failed⟩
  · rintro ⟨proper, failed⟩
    exact ⟨items, ⟨rfl, proper⟩, failed⟩

end Endings

/-! ### All walks on one value -/

/-- **All walks over a value agree on its items and its end.** Every value is a chain of items in exactly
one way such that the end is no pair, and chains in front of chains are chains. The value is a list exactly
if the end is the empty list; then the elements are the items, the length is their number, and a map acts on
them in order, each time in the state that the time before left, up to the first that fails. Otherwise these
walks fail, and a map does so before it acts at all. Elements can be taken from the front, one, two, three
or any number of them, exactly if there are so many items, whatever the end; else the end decides whether
the list is too short or no list. -/
theorem walks_agree (value : Value) :
    (∃! parts : List Value × Value, parts.2.isPair = false ∧ chain parts.1 parts.2 = value) ∧
    (∀ front items tail, chain front (chain items tail) = chain (front ++ items) tail) ∧
    ∀ items tail, tail.isPair = false → chain items tail = value →
      (value.isList ↔ tail = .nil) ∧
      value.elements = (if tail = .nil then .ok items else .error (.notAList value)) ∧
      value.length = (if tail = .nil then .ok items.length else .error (.notAList value)) ∧
      (∀ count, value.leading count =
        if count ≤ items.length then .ok (items.take count)
        else .error (if tail = .nil then .emptyList else .notAList tail)) ∧
      (do return [← value.head]) = value.leading 1 ∧
      (do let (first, second) ← value.take2; return [first, second]) = value.leading 2 ∧
      (do let (first, second, third) ← value.take3; return [first, second, third])
        = value.leading 3 ∧
      (∀ first rest, items = first :: rest → value.splitHead = .ok (first, chain rest tail)) ∧
      (items = [] → value.splitHead = .error (if tail = .nil then .emptyList else .notAList tail)) ∧
      (∀ (m : Type → Type) [Monad m] [MonadExcept Fault m] (act : Value → m Value),
        mapList act value =
          if tail = .nil then do return ofList (← items.mapM act) else throw (.notAList value)) ∧
      ∀ (σ : Type) (act : Value → EStateM Fault σ Value) (start later : σ),
        (∀ result, mapList act value start = .ok result later ↔
          tail = .nil ∧ ∃ values, InTurn act items start values later ∧ result = ofList values) ∧
        ∀ fault, mapList act value start = .error fault later ↔
          (tail ≠ .nil ∧ fault = .notAList value ∧ later = start) ∨
            tail = .nil ∧ FailsInTurn act start fault later items := by
  refine ⟨existsUnique_chain value, fun front items tail => (chain_append front items tail).symm, ?_⟩
  rintro items tail notPair rfl
  refine ⟨isList_chain_iff notPair items, elements_chain notPair items, length_chain notPair items,
    fun count => leading_chain notPair count items, head_eq_leading _, take2_eq_leading _,
    take3_eq_leading _, ?_, ?_, fun m _ _ act => mapList_chain act notPair items, ?_⟩
  · rintro first rest rfl
    exact splitHead_chain notPair (first :: rest)
  · rintro rfl
    exact splitHead_chain notPair []
  · intro σ act start later
    exact ⟨fun result => mapList_chain_eq_ok_iff notPair, fun fault => mapList_chain_eq_error_iff notPair⟩

/-- `(1 2 . x)` is no list, and a map that prints prints nothing of it; but its first two elements can be
taken. -/
theorem walks_agree_dotted :
    let value := chain [.int 1, .int 2] (.sym "x")
    let shown (item : Value) : EvalM Value := do
      EvalM.print item.render
      return item
    ¬ value.isList ∧ mapList shown value .initial = .error (.notAList value) .initial ∧
      (do let (first, second) ← value.take2; return [first, second]) = .ok [.int 1, .int 2] ∧
      (do let (first, second, third) ← value.take3; return [first, second, third])
        = .error (.notAList (.sym "x")) := by
  intro value shown
  obtain ⟨listed, -, -, leading, -, two, three, -, -, -, maps⟩ :=
    (walks_agree value).2.2 [.int 1, .int 2] (.sym "x") rfl rfl
  refine ⟨fun proper => (nomatch listed.mp proper), ?_, two.trans (leading 2),
    three.trans (leading 3)⟩
  exact ((maps World shown .initial .initial).2 _).mpr (.inl ⟨nofun, rfl, rfl⟩)

end SmallLisp.Value
