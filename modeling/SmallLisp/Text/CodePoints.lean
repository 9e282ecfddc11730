/-
**Classes of characters by code point.** A character class is written down as its code point
ranges in increasing order; `inRanges` decides membership and stops at the first range that
lies above the character.
-/

namespace SmallLisp.Text

/-- Whether `code` lies in one of the inclusive ranges `(low, high)`, which stand in increasing
order: a range above `code` ends the search. -/
def inRanges (code : Nat) : List (Nat × Nat) → Bool
  | [] => false
  | (low, high) :: rest => low ≤ code && (code ≤ high || inRanges code rest)

@[simp] theorem inRanges_nil (code : Nat) : inRanges code [] = false := rfl

@[simp] theorem inRanges_cons (code low high : Nat) (rest : List (Nat × Nat)) :
    inRanges code ((low, high) :: rest) = (low ≤ code && (code ≤ high || inRanges code rest)) :=
  rfl

end SmallLisp.Text
