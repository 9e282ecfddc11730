/-
**Progress of a token stream.**

Whatever is done with a stream, the tokens that are left are the last of those it started with. Reading
one expression uses up at least one token, whether it succeeds or fails, except at a *barrier*: a right
parenthesis or a token of an unknown kind where an expression must start. There it fails and leaves all
tokens.

* `readExprFrom_suffix`: reading on from anywhere leaves a suffix of the tokens;
* `refuses_start_iff`: before a new expression exactly the barriers are refused;
* `Operation.pending_suffix` and `pending_afterAll_suffix`: what one operation leaves, and any number of
  them;
* `settled_retry`: reading again and again comes to the end of the stream or to a barrier.
-/

import SmallLisp.Proofs.Reader.Grammar

namespace SmallLisp

/-! ### Barriers -/

/-- Whether a token can start no expression and is left where it stands. -/
def Token.isBarrier (token : Token) : Bool :=
  match token.kind with
  | .rparen | .other _ => true
  | _ => false

/-- **Before a new expression exactly the barriers are refused**: all other tokens are used up, also by
their faults. -/
theorem refuses_start_iff (room : Nat) (token : Token) :
    (∃ fault, (Pending.start (room + 1)).step token = .refuse fault) ↔ token.isBarrier := by
  obtain ⟨kind, text⟩ := token
  have literal : ∀ (value : Except Fault Value) (fault : Fault),
      resumeLiteral (room + 1) [] value ≠ .refuse fault := by
    rintro (_ | _) fault <;> nofun
  cases kind with
  | atom =>
      by_cases isDot : Token.isDot ⟨.atom, text⟩ <;>
        simp [Pending.start, Pending.step, startExpr, Token.isBarrier, isDot, literal]
  | string => simp [Pending.start, Pending.step, startExpr, Token.isBarrier, literal]
  | quote => cases room <;> simp [Pending.start, Pending.step, startExpr, Token.isBarrier]
  | lparen | rparen | other => simp [Pending.start, Pending.step, startExpr, Token.isBarrier]

namespace TokenStream

/-- The next token is a barrier. -/
def AtBarrier (stream : TokenStream) : Prop :=
  ∃ token rest, stream.pending = token :: rest ∧ token.isBarrier

/-- The stream has come to its end or to a barrier. -/
def Settled (stream : TokenStream) : Prop := stream.pending = [] ∨ stream.AtBarrier

/-! ### Reading one expression -/

/-- **Reading leaves a suffix of the tokens**, from wherever it goes on. -/
theorem readExprFrom_suffix (ending : Option Fault) (reader : Pending) (tokens : List Token) :
    (readExprFrom ending reader tokens).2.pending <:+ tokens := by
  induction tokens generalizing reader with
  | nil =>
      unfold readExprFrom
      split <;> exact List.suffix_rfl
  | cons token rest ih =>
      rw [readExprFrom]
      cases reader.step token with
      | more next => exact (ih next).trans (List.suffix_cons token rest)
      | done | fail => exact List.suffix_cons token rest
      | refuse => exact List.suffix_rfl

/-- A token that is not refused is used up. -/
theorem readExprFrom_suffix_of_used (ending : Option Fault) {reader : Pending} {token : Token}
    (used : ¬ ∃ fault, reader.step token = .refuse fault) (rest : List Token) :
    (readExprFrom ending reader (token :: rest)).2.pending <:+ rest := by
  rw [readExprFrom]
  cases moved : reader.step token with
  | more next => exact readExprFrom_suffix ending next rest
  | done | fail => exact List.suffix_rfl
  | refuse fault => exact absurd ⟨fault, moved⟩ used

theorem readExprFrom_fault {ending : Option Fault} (sound : ending = none) (reader : Pending)
    (tokens : List Token) : (readExprFrom ending reader tokens).2.fault = none := by
  subst sound
  induction tokens generalizing reader with
  | nil =>
      unfold readExprFrom
      split <;> rfl
  | cons token rest ih =>
      rw [readExprFrom]
      cases reader.step token with
      | more next => exact ih next
      | done | fail | refuse => rfl

section Expr

variable (room : Nat) (stream : TokenStream)

/-- **At a barrier** reading fails and leaves all tokens. -/
theorem readExpr_of_atBarrier (barrier : stream.AtBarrier) :
    ∃ fault, (stream.readExpr (room + 1)).1 = .error fault ∧
      (stream.readExpr (room + 1)).2.pending = stream.pending := by
  obtain ⟨token, rest, split, isBarrier⟩ := barrier
  obtain ⟨fault, refused⟩ := (refuses_start_iff room token).mpr isBarrier
  have read : stream.readExpr (room + 1) = (.error fault, ⟨some token, rest, stream.fault⟩) := by
    rw [readExpr, split, readExprFrom, refused]
  rw [read, split]
  exact ⟨fault, rfl, rfl⟩

theorem pending_readExpr_of_settled (settled : stream.Settled) :
    (stream.readExpr (room + 1)).2.pending = stream.pending := by
  rcases settled with atEnd | barrier
  · rw [atEnd]
    exact List.suffix_nil.mp (atEnd ▸ readExprFrom_suffix stream.fault _ stream.pending)
  · obtain ⟨fault, -, left⟩ := readExpr_of_atBarrier room stream barrier
    exact left

/-- **Anywhere else** reading uses up tokens, whether it fails or not. -/
theorem readExpr_uses (unsettled : ¬ stream.Settled) :
    ∃ used, used ≠ [] ∧ stream.pending = used ++ (stream.readExpr (room + 1)).2.pending := by
  rw [readExpr]
  cases split : stream.pending with
  | nil => exact absurd (.inl split) unsettled
  | cons token rest =>
      have passes : ¬ token.isBarrier := fun isBarrier =>
        unsettled (.inr ⟨token, rest, split, isBarrier⟩)
      obtain ⟨used, left⟩ := readExprFrom_suffix_of_used stream.fault
        (mt (refuses_start_iff room token).mp passes) rest
      refine ⟨token :: used, List.cons_ne_nil _ _, ?_⟩
      rw [List.cons_append, left]

theorem length_readExpr_lt (unsettled : ¬ stream.Settled) :
    (stream.readExpr (room + 1)).2.pending.length < stream.pending.length := by
  obtain ⟨used, some, split⟩ := readExpr_uses room stream unsettled
  have shorter := List.length_pos_iff.mpr some
  rw [split, List.length_append]
  omega

end Expr

/-- Looking and advancing show the first of the pending tokens. -/
theorem shows_next {stream : TokenStream} (sound : stream.fault = none) :
    stream.peek.1 = .ok stream.pending.head? ∧ stream.advance.1 = .ok stream.pending.head? := by
  obtain ⟨lookahead, unread, fault⟩ := stream
  subst sound
  rcases lookahead with _ | token <;> rcases unread with _ | ⟨next, rest⟩ <;> exact ⟨rfl, rfl⟩

/-! ### Any operations in a row -/

/-- What can be done with a stream: looking at the next token, using it up, or reading an expression with
room for at least one. -/
inductive Operation where
  | peek
  | advance
  | expr (room : Nat)

/-- The stream that an operation leaves, whether it fails or not. -/
def Operation.after (stream : TokenStream) : Operation → TokenStream
  | .peek => stream.peek.2
  | .advance => stream.advance.2
  | .expr room => (stream.readExpr (room + 1)).2

/-- The stream after operations in a row. -/
def afterAll (stream : TokenStream) (operations : List Operation) : TokenStream :=
  operations.foldl Operation.after stream

/-- The stream after reading expressions again and again, whatever comes of it. -/
def retry (stream : TokenStream) (rooms : List Nat) : TokenStream := stream.afterAll (rooms.map .expr)

variable (stream : TokenStream)

theorem Operation.pending_suffix (operation : Operation) :
    (operation.after stream).pending <:+ stream.pending := by
  cases operation with
  | peek => exact stream.pending_peek ▸ List.suffix_rfl
  | advance => exact stream.pending_advance ▸ List.tail_suffix stream.pending
  | expr room => exact readExprFrom_suffix stream.fault _ stream.pending

theorem Operation.fault_eq_none (operation : Operation) {stream : TokenStream}
    (sound : stream.fault = none) : (operation.after stream).fault = none := by
  obtain ⟨lookahead, unread, fault⟩ := stream
  subst sound
  cases operation with
  | peek | advance => rcases lookahead with _ | token <;> rcases unread with _ | ⟨next, rest⟩ <;> rfl
  | expr room => exact readExprFrom_fault rfl _ _

/-- **Whatever is done**, the last of the tokens are left. -/
theorem pending_afterAll_suffix (operations : List Operation) :
    (stream.afterAll operations).pending <:+ stream.pending := by
  induction operations generalizing stream with
  | nil => exact List.suffix_rfl
  | cons operation later ih => exact (ih (operation.after stream)).trans (operation.pending_suffix stream)

theorem fault_afterAll (operations : List Operation) {stream : TokenStream}
    (sound : stream.fault = none) : (stream.afterAll operations).fault = none := by
  induction operations generalizing stream with
  | nil => exact sound
  | cons operation later ih => exact ih (operation.fault_eq_none sound)

/-- **Reading again and again** settles the stream, at the latest after as many times as it holds tokens;
a stream that is settled stays so. -/
theorem settled_retry (rooms : List Nat)
    (enough : stream.Settled ∨ stream.pending.length ≤ rooms.length) :
    (stream.retry rooms).Settled := by
  induction rooms generalizing stream with
  | nil => exact enough.elim id fun empty => .inl (List.length_eq_zero_iff.mp (Nat.le_zero.mp empty))
  | cons room rooms ih =>
      refine ih (stream.readExpr (room + 1)).2 ?_
      by_cases settled : stream.Settled
      · left
        have same := pending_readExpr_of_settled room stream settled
        rwa [Settled, AtBarrier, same]
      · right
        have shorter := length_readExpr_lt room stream settled
        have left := enough.resolve_left settled
        rw [List.length_cons] at left
        omega

/-! ### The account of a stream -/

/-- **A token stream makes progress.** On a stream over any tokens, after any operations, failed ones
included:

* the tokens that are left are the last of those at the start, and at most one of them was looked at;
* looking leaves them all and shows the first; advancing takes the first away and shows it;
* reading an expression ends without one only at the end of the stream; if it returns a value, it has used
  up at least one token;
* if it fails, it has used up at least one token too, unless the next token is a barrier; at a barrier it
  always fails, and leaves all tokens;
* reading again and again comes to the end of the stream or to a barrier, at the latest after as many
  times as tokens are left. -/
theorem stream_progress (tokens : List Token) (operations : List Operation) :
    let stream := (ofTokens tokens).afterAll operations
    (stream.pending <:+ tokens ∧ stream.pending = stream.lookahead.toList ++ stream.unread ∧
      stream.lookahead.toList.length ≤ 1) ∧
    (stream.peek.1 = .ok stream.pending.head? ∧ stream.peek.2.pending = stream.pending) ∧
    (stream.advance.1 = .ok stream.pending.head? ∧ stream.advance.2.pending = stream.pending.tail) ∧
    (∀ room, (stream.readExpr (room + 1)).1 = .ok none ↔ stream.pending = []) ∧
    (∀ room value later, stream.readExpr (room + 1) = (.ok (some value), later) →
      ∃ used, used ≠ [] ∧ stream.pending = used ++ later.pending) ∧
    (∀ room fault later, stream.readExpr (room + 1) = (.error fault, later) →
      (stream.AtBarrier → later.pending = stream.pending) ∧
      (¬ stream.AtBarrier → ∃ used, used ≠ [] ∧ stream.pending = used ++ later.pending)) ∧
    (∀ room, stream.AtBarrier → ∃ fault, (stream.readExpr (room + 1)).1 = .error fault) ∧
    ∀ rooms, stream.pending.length ≤ rooms.length → (stream.retry rooms).Settled := by
  intro stream
  have sound : stream.fault = none := fault_afterAll operations rfl
  have ends : ∀ room, (stream.readExpr (room + 1)).1 = .ok none ↔ stream.pending = [] := fun room => by
    rw [readExpr_none_iff, and_iff_left sound]
  have fails : ∀ room, stream.AtBarrier → ∃ fault, (stream.readExpr (room + 1)).1 = .error fault :=
    fun room barrier => (readExpr_of_atBarrier room stream barrier).imp fun _ failed => failed.1
  refine ⟨⟨pending_afterAll_suffix (ofTokens tokens) operations, rfl, ?_⟩,
    ⟨(shows_next sound).1, stream.pending_peek⟩, ⟨(shows_next sound).2, stream.pending_advance⟩, ends,
    ?_, ?_, fails, fun rooms enough => settled_retry stream rooms (.inr enough)⟩
  · cases stream.lookahead <;> simp
  · intro room value later read
    have unsettled : ¬ stream.Settled := by
      rintro (atEnd | barrier)
      · simpa [read] using (ends room).mpr atEnd
      · simpa [read] using fails room barrier
    simpa [read] using readExpr_uses room stream unsettled
  · intro room fault later read
    refine ⟨fun barrier => ?_, fun passes => ?_⟩
    · simpa [read] using pending_readExpr_of_settled room stream (.inr barrier)
    · have unsettled : ¬ stream.Settled := by
        rintro (atEnd | barrier)
        · simpa [read] using (ends room).mpr atEnd
        · exact passes barrier
      simpa [read] using readExpr_uses room stream unsettled

/-- `( . "\" )`: the first reading fails at the dot and leaves it, the second uses the dot up, the third
fails in the string, and then a parenthesis stands in the way for good. -/
theorem stream_progress_broken :
    let tokens : List Token := [⟨.lparen, "("⟩, ⟨.atom, "."⟩, ⟨.string, "\"\\\""⟩, ⟨.rparen, ")"⟩]
    let stream := (ofTokens tokens).afterAll [.peek, .expr 4, .peek]
    stream.lookahead = some ⟨.atom, "."⟩ ∧ stream.pending <:+ tokens ∧
      (stream.readExpr 5).1 = .error .dotOutsideList ∧
      (∃ used, used ≠ [] ∧ stream.pending = used ++ (stream.readExpr 5).2.pending) ∧
      (stream.retry [4, 4, 4]).pending = [⟨.rparen, ")"⟩] ∧ (stream.retry [4, 4, 4]).Settled := by
  intro tokens stream
  obtain ⟨⟨suffix, -⟩, -, -, -, -, failed, -, again⟩ := stream_progress tokens [.peek, .expr 4, .peek]
  refine ⟨by decide +kernel, suffix, by decide +kernel, ?_, by decide +kernel, ?_⟩
  · refine (failed 4 .dotOutsideList _ (by decide +kernel)).2 ?_
    rintro ⟨token, rest, split, barrier⟩
    cases split
    cases barrier
  · exact again [4, 4, 4] (by decide +kernel)

end TokenStream

end SmallLisp
