/-
**Lists.** A list is a chain of pairs that ends in the empty list. `chain` builds a chain with any
end; `isList`, `length`, `elements`, `splitHead` and its two iterates, and `mapList` each walk the
chain on their own. What asks for a proper list fails with `notAList` on any other end, and taking
an element from the empty list fails with `emptyList`.
-/

import SmallLisp.Fault

namespace SmallLisp.Value

/-! ### Building -/

/-- The items as a chain of pairs that ends in `tail`. -/
def chain (items : List Value) (tail : Value) : Value := items.foldr .pair tail

/-- The items as a proper list. -/
def ofList (items : List Value) : Value := chain items .nil

@[simp] theorem chain_nil (tail : Value) : chain [] tail = tail := rfl

@[simp] theorem chain_cons (item : Value) (items : List Value) (tail : Value) :
    chain (item :: items) tail = .pair item (chain items tail) := rfl

theorem chain_append (items more : List Value) (tail : Value) :
    chain (items ++ more) tail = chain items (chain more tail) := by
  simp [chain]

/-! ### Walking -/

/-- Whether a chain of pairs ends in the empty list. -/
def isList : Value → Bool
  | .nil => true
  | .pair _ rest => isList rest
  | _ => false

/-- Counts the elements of a proper list on top of `count`. -/
def countFrom (count : Nat) : Value → Option Nat
  | .nil => some count
  | .pair _ rest => countFrom (count + 1) rest
  | _ => none

/-- The number of elements of a proper list. -/
def length (value : Value) : Except Fault Nat :=
  match countFrom 0 value with
  | some count => .ok count
  | none => .error (.notAList value)

/-- Collects the elements of a proper list after those in `taken`, which stand newest first. -/
def collectFrom (taken : List Value) : Value → Option (List Value)
  | .nil => some taken.reverse
  | .pair first rest => collectFrom (first :: taken) rest
  | _ => none

/-- The elements of a proper list. -/
def elements (value : Value) : Except Fault (List Value) :=
  match collectFrom [] value with
  | some items => .ok items
  | none => .error (.notAList value)

/-! ### Taking apart -/

/-- The first element of a list and what follows it. -/
def splitHead : Value → Except Fault (Value × Value)
  | .pair first rest => .ok (first, rest)
  | .nil => .error .emptyList
  | value => .error (.notAList value)

/-- The first element of a list. -/
def head (value : Value) : Except Fault Value := do
  let (first, _) ← splitHead value
  return first

/-- The first two elements of a list; further ones are ignored. -/
def take2 (value : Value) : Except Fault (Value × Value) := do
  let (first, rest) ← splitHead value
  let (second, _) ← splitHead rest
  return (first, second)

/-- The first three elements of a list; further ones are ignored. -/
def take3 (value : Value) : Except Fault (Value × Value × Value) := do
  let (first, rest) ← splitHead value
  let (second, rest) ← splitHead rest
  let (third, _) ← splitHead rest
  return (first, second, third)

/-! ### Mapping -/

/-- Applies `f` to the elements of a proper list from left to right and lists the results. An
improper list fails before `f` is applied at all. -/
def mapList {m : Type → Type} [Monad m] [MonadExcept Fault m] (f : Value → m Value)
    (value : Value) : m Value := do
  match elements value with
  | .ok items => return ofList (← items.mapM f)
  | .error fault => throw fault

/-! ### The walks on a chain -/

@[simp] theorem isList_chain (items : List Value) (tail : Value) :
    isList (chain items tail) = isList tail := by
  induction items with
  | nil => rfl
  | cons item items ih => simpa [isList] using ih

@[simp] theorem countFrom_chain (count : Nat) (items : List Value) (tail : Value) :
    countFrom count (chain items tail) = countFrom (count + items.length) tail := by
  induction items generalizing count with
  | nil => rfl
  | cons item items ih => simp [countFrom, ih, Nat.add_assoc, Nat.add_comm 1]

@[simp] theorem collectFrom_chain (taken items : List Value) (tail : Value) :
    collectFrom taken (chain items tail) = collectFrom (items.reverse ++ taken) tail := by
  induction items generalizing taken with
  | nil => rfl
  | cons item items ih => simp [collectFrom, ih]

@[simp] theorem elements_ofList (items : List Value) : elements (ofList items) = .ok items := by
  simp [elements, ofList, collectFrom]

@[simp] theorem length_ofList (items : List Value) : length (ofList items) = .ok items.length := by
  simp [length, ofList, countFrom]

end SmallLisp.Value
