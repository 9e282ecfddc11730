/-
**How much room the reader has.**

The room of the reader decides only whether a text is read as far as it could be, never what is read.
With more room every token leads to the same move (`Pending.step_widen`), except where it fails
for want of room. So the forms that were read before such a failure are read with more room as well,
and without one the whole reading is the same (`TokenStream.readAll_widen`).
-/

import SmallLisp.Proofs.Reader.Reads

namespace SmallLisp

/-- The reader at the same place with more room. -/
def Pending.widen (more : Nat) : Pending → Pending
  | .expr room frames => .expr (more + room) frames
  | .close room items tail frames => .close (more + room) items tail frames

/-- The same move with more room afterwards. -/
def Move.widen (more : Nat) : Move → Move
  | .more pending => .more (pending.widen more)
  | move => move

variable (more : Nat)

theorem resume_widen (value : Value) (room : Nat) (frames : List Frame) :
    resume value (more + room) frames = (resume value room frames).widen more := by
  induction frames generalizing value room with
  | nil => rfl
  | cons frame outer ih =>
      cases frame with
      | quote => exact ih (quoteForm value) (room + 1)
      | list | tail => rfl

theorem resumeLiteral_widen (room : Nat) (frames : List Frame) (literal : Except Fault Value) :
    resumeLiteral (more + room) frames literal = (resumeLiteral room frames literal).widen more := by
  cases literal with
  | ok value => exact resume_widen more value room frames
  | error fault => rfl

theorem startExpr_widen (room : Nat) (frames : List Frame) (token : Token) :
    (startExpr room frames token).Fails .nestedTooDeeply
      ∨ startExpr (more + room) frames token = (startExpr room frames token).widen more := by
  cases room with
  | zero => exact .inl (.inr rfl)
  | succ inner =>
      obtain ⟨kind, text⟩ := token
      cases kind with
      | quote =>
          cases inner with
          | zero => exact .inl (.inl rfl)
          | succ inner => exact .inr rfl
      | atom =>
          refine .inr ?_
          by_cases isDot : Token.isDot ⟨.atom, text⟩
          · simp [startExpr, isDot, Move.widen]
          · simpa [startExpr, isDot] using resumeLiteral_widen more (inner + 1) frames (readAtom text)
      | string => exact .inr (resumeLiteral_widen more (inner + 1) frames ((readString text).map .str))
      | lparen | rparen | other => exact .inr rfl

/-- **With more room a token leads to the same move**, unless it fails for want of room. -/
theorem Pending.step_widen (pending : Pending) (token : Token) :
    (pending.step token).Fails .nestedTooDeeply
      ∨ (pending.widen more).step token = (pending.step token).widen more := by
  cases pending with
  | close room items tail frames =>
      refine .inr ?_
      by_cases close : token.kind = .rparen
      · rw [widen, step, step, if_pos close, if_pos close]
        exact resume_widen more _ (room + 1) frames
      · simp [widen, step, close, Move.widen]
  | expr room frames =>
      rcases frames with _ | ⟨_ | items | items, outer⟩
      · exact startExpr_widen more room _ token
      · exact startExpr_widen more room _ token
      · by_cases close : token.kind = .rparen
        · refine .inr ?_
          rw [widen, step, step, if_pos close, if_pos close]
          exact resume_widen more _ (room + 1) outer
        by_cases isDot : token.isDot
        · refine .inr ?_
          cases items <;> simp [widen, step, close, isDot, Move.widen]
        · simpa [widen, step, close, isDot] using startExpr_widen more room (.list items :: outer) token
      · by_cases close : token.kind = .rparen
        · exact .inr (by simp [widen, step, close, Move.widen])
        · simpa [widen, step, close] using startExpr_widen more room (.tail items :: outer) token

theorem Pending.endFault?_widen (pending : Pending) :
    (pending.widen more).endFault? = pending.endFault? := by
  cases pending with
  | close => rfl
  | expr room frames => rcases frames with _ | ⟨_ | items | items, outer⟩ <;> rfl

namespace TokenStream

/-- The forms that were complete stay in front of all that are read. -/
theorem prefix_readAllFrom (room : Nat) (ending : Option Fault) (pending : Pending)
    (forms : List Value) (tokens : List Token) :
    forms.reverse <+: (readAllFrom room ending pending forms tokens).1.forms := by
  induction tokens generalizing pending forms with
  | nil => exact List.prefix_rfl
  | cons token rest ih =>
      rw [readAllFrom_cons]
      cases pending.step token with
      | more next => exact ih next forms
      | done value =>
          refine List.IsPrefix.trans ?_ (ih _ (value :: forms))
          rw [List.reverse_cons]
          exact List.prefix_append _ _
      | fail | refuse => exact List.prefix_rfl

/-- A reading that was not cut short for want of room is the same with more room; one that was, is
the start of another. -/
theorem readAllFrom_widen (room : Nat) (ending : Option Fault) (pending : Pending)
    (forms : List Value) (tokens : List Token) :
    readAllFrom (more + room) ending (pending.widen more) forms tokens
        = readAllFrom room ending pending forms tokens
      ∨ (readAllFrom room ending pending forms tokens).1.fault = some .nestedTooDeeply ∧
        (readAllFrom room ending pending forms tokens).1.forms
          <+: (readAllFrom (more + room) ending (pending.widen more) forms tokens).1.forms := by
  induction tokens generalizing pending forms with
  | nil =>
      rw [readAllFrom, readAllFrom, Pending.endFault?_widen]
      exact .inl rfl
  | cons token rest ih =>
      rcases pending.step_widen more token with cut | same
      · have stopped : (readAllFrom room ending pending forms (token :: rest)).1
            = ⟨forms.reverse, some .nestedTooDeeply⟩ := by
          rw [readAllFrom_cons]
          rcases cut with cut | cut <;> rw [cut, readAllAfter]
        rw [stopped]
        exact .inr ⟨rfl, prefix_readAllFrom _ _ _ _ _⟩
      · rw [readAllFrom_cons, readAllFrom_cons, same]
        cases pending.step token with
        | more next => exact ih next forms
        | done value => exact ih (Pending.start room) (value :: forms)
        | fail | refuse => exact .inl rfl

theorem readAll_widen {room larger : Nat} (le : room ≤ larger) (stream : TokenStream) :
    stream.readAll larger = stream.readAll room
      ∨ (stream.readAll room).1.fault = some .nestedTooDeeply ∧
        (stream.readAll room).1.forms <+: (stream.readAll larger).1.forms := by
  obtain ⟨more, rfl⟩ := Nat.exists_eq_add_of_le' le
  exact readAllFrom_widen more room stream.fault (Pending.start room) [] stream.pending

end TokenStream

end SmallLisp
