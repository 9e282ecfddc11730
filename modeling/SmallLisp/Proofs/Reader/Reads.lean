/-
**Runs of the expression reader.**

`Reads pending tokens move` says that the reader, starting at `pending`, uses up exactly `tokens`
and ends with `move`. Reading all expressions of a stream is made of such runs
(`Reads.readAllFrom_eq`), and runs are put together by `Reads.append`.

`Pending.takes_step`: a token is one of the six that go on an expression, or it stops the reader.

`holdsReadable_step`: a token keeps all values that the reader holds readable; hence
`readSource_readable`: every form that is read from any text is readable.
-/

import SmallLisp.Proofs.Reader.Literal
import SmallLisp.Reader.Stream

namespace SmallLisp

/-- The reader goes from `pending` through all of `tokens` and ends with a move. -/
inductive Reads : Pending → List Token → Move → Prop
  | nothing (pending : Pending) : Reads pending [] (.more pending)
  | last {pending : Pending} {token : Token} {move : Move} (step : pending.step token = move) :
      Reads pending [token] move
  | next {pending later : Pending} {token : Token} {tokens : List Token} {move : Move}
      (step : pending.step token = .more later) (rest : Reads later tokens move) :
      Reads pending (token :: tokens) move

/-- What reading all expressions does after a token that led to `move`. -/
def TokenStream.readAllAfter (room : Nat) (ending : Option Fault) (forms : List Value)
    (token : Option Token) (rest : List Token) : Move → Reading × TokenStream
  | .more next => readAllFrom room ending next forms rest
  | .done value => readAllFrom room ending (Pending.start room) (value :: forms) rest
  | .fail fault => (⟨forms.reverse, some fault⟩, ⟨none, rest, ending⟩)
  | .refuse fault => (⟨forms.reverse, some fault⟩, ⟨token, rest, ending⟩)

theorem TokenStream.readAllFrom_cons (room : Nat) (ending : Option Fault) (pending : Pending)
    (forms : List Value) (token : Token) (rest : List Token) :
    readAllFrom room ending pending forms (token :: rest)
      = readAllAfter room ending forms (some token) rest (pending.step token) := by
  rw [readAllFrom]
  cases pending.step token <;> rfl

namespace Reads

/-- One run after the other. -/
theorem append {pending later : Pending} {first second : List Token} {move : Move}
    (run : Reads pending first (.more later)) (rest : Reads later second move) :
    Reads pending (first ++ second) move := by
  generalize reached : Move.more later = middle at run
  induction run with
  | nothing =>
      cases reached
      exact rest
  | last step =>
      subst reached
      exact .next step rest
  | next step _ ih => exact .next step (ih reached)

/-- **A run is what reading all expressions does with its tokens.** -/
theorem readAllFrom_eq {pending : Pending} {tokens : List Token} {move : Move}
    (run : Reads pending tokens move) (room : Nat) (ending : Option Fault) (forms : List Value)
    (rest : List Token) :
    TokenStream.readAllFrom room ending pending forms (tokens ++ rest)
      = TokenStream.readAllAfter room ending forms tokens.getLast? rest move := by
  induction run with
  | nothing => rfl
  | last step => rw [List.singleton_append, TokenStream.readAllFrom_cons, step, List.getLast?_singleton]
  | next step later ih =>
      rw [List.cons_append, TokenStream.readAllFrom_cons, step]
      -- the last token matters only to a refusal, and a refusal is never reached without a token
      cases later with
      | nothing => rfl
      | last final => exact ih
      | next final others => exact ih

end Reads

/-! ### Single steps -/

namespace Pending

/-- A token that is no right parenthesis and no dot starts an expression, whatever waits for it. -/
theorem step_expr {token : Token} (notClose : token.kind ≠ .rparen) (notDot : token.isDot = false)
    (room : Nat) (frames : List Frame) :
    step (.expr room frames) token = startExpr room frames token := by
  cases frames with
  | nil => rfl
  | cons frame outer => cases frame <;> simp [step, notClose, notDot]

theorem step_lparen (room : Nat) (frames : List Frame) :
    step (.expr (room + 1) frames) ⟨.lparen, "("⟩ = .more (.expr room (.list [] :: frames)) :=
  step_expr (by decide) (by decide) _ _

theorem step_rparen_list (room : Nat) (items : List Value) (frames : List Frame) :
    step (.expr room (.list items :: frames)) ⟨.rparen, ")"⟩
      = resume (Value.ofList items.reverse) (room + 1) frames := rfl

theorem step_rparen_close (room : Nat) (items : List Value) (tail : Value) (frames : List Frame) :
    step (.close room items tail frames) ⟨.rparen, ")"⟩
      = resume (Value.chain items.reverse tail) (room + 1) frames := rfl

theorem step_dot (room : Nat) (item : Value) (items : List Value) (frames : List Frame) :
    step (.expr room (.list (item :: items) :: frames)) ⟨.atom, "."⟩
      = .more (.expr room (.tail (item :: items) :: frames)) := rfl

/-- An atom other than the dot is handed to the frames, or fails. -/
theorem step_atom {text : String} (notDot : text ≠ ".") (room : Nat) (frames : List Frame) :
    step (.expr (room + 1) frames) ⟨.atom, text⟩
      = resumeLiteral (room + 1) frames (readAtom text) := by
  have word : Token.isDot ⟨.atom, text⟩ = false := by simp [Token.isDot, notDot]
  rw [step_expr (show TokenKind.atom ≠ .rparen by decide) word, startExpr]
  simp [word]

theorem step_string (text : String) (room : Nat) (frames : List Frame) :
    step (.expr (room + 1) frames) ⟨.string, text⟩
      = resumeLiteral (room + 1) frames ((readString text).map .str) :=
  step_expr (show TokenKind.string ≠ .rparen by decide) rfl _ _

end Pending

/-! ### The tokens that go on an expression -/

/-- A token is an atom other than the dot or a string, and stands for a value. -/
inductive Token.Denotes : Token → Value → Prop
  | atom {text : String} {value : Value} (word : text ≠ ".") (read : readAtom text = .ok value) :
      Denotes ⟨.atom, text⟩ value
  | string {text body : String} (read : readString text = .ok body) :
      Denotes ⟨.string, text⟩ (.str body)

/-- The tokens that the reader accepts, and what they lead to. -/
inductive Pending.Takes : Pending → Token → Move → Prop
  | literal {token : Token} {value : Value} (room : Nat) (frames : List Frame)
      (literal : token.Denotes value) :
      Takes (.expr (room + 1) frames) token (resume value (room + 1) frames)
  | quote {token : Token} (room : Nat) (frames : List Frame) (kind : token.kind = .quote) :
      Takes (.expr (room + 2) frames) token (.more (.expr (room + 1) (.quote :: frames)))
  | opening {token : Token} (room : Nat) (frames : List Frame) (kind : token.kind = .lparen) :
      Takes (.expr (room + 1) frames) token (.more (.expr room (.list [] :: frames)))
  | closing {token : Token} (room : Nat) (items : List Value) (frames : List Frame)
      (kind : token.kind = .rparen) :
      Takes (.expr room (.list items :: frames)) token
        (resume (Value.ofList items.reverse) (room + 1) frames)
  | dot {token : Token} {items : List Value} (room : Nat) (frames : List Frame)
      (isDot : token.isDot) (nonempty : items ≠ []) :
      Takes (.expr room (.list items :: frames)) token (.more (.expr room (.tail items :: frames)))
  | closingTail {token : Token} (room : Nat) (items : List Value) (tail : Value)
      (frames : List Frame) (kind : token.kind = .rparen) :
      Takes (.close room items tail frames) token
        (resume (Value.chain items.reverse tail) (room + 1) frames)

/-- Whether a token was accepted. -/
def Move.goesOn : Move → Bool
  | .more _ | .done _ => true
  | _ => false

/-- The move stops the reader with a fault. -/
def Move.Fails (move : Move) (fault : Fault) : Prop := move = .fail fault ∨ move = .refuse fault

theorem Move.Fails.goesOn {move : Move} {fault : Fault} (fails : move.Fails fault) :
    move.goesOn = false := by
  rcases fails with rfl | rfl <;> rfl

/-- A move fails with one fault. -/
theorem Move.Fails.unique {move : Move} {fault other : Fault} (fails : move.Fails fault)
    (fails' : move.Fails other) : fault = other := by
  rcases fails with rfl | rfl <;> rcases fails' with same | same <;> cases same <;> rfl

theorem goesOn_resume (value : Value) (room : Nat) (frames : List Frame) :
    (resume value room frames).goesOn := by
  induction frames generalizing value room with
  | nil => rfl
  | cons frame outer ih =>
      cases frame with
      | quote => exact ih _ _
      | list | tail => rfl

theorem Pending.Takes.goesOn {pending : Pending} {token : Token} {move : Move}
    (takes : pending.Takes token move) : move.goesOn := by
  cases takes with
  | literal | closing | closingTail => exact goesOn_resume _ _ _
  | quote | opening | dot => rfl

/-- How many more expressions may be opened inside each other. -/
def Pending.room : Pending → Nat
  | .expr room _ | .close room _ _ _ => room

/-- The faults of a token that cannot go on an expression. -/
def Fault.isRefusal : Fault → Bool
  | .invalidToken _ | .integerRange _ | .digitCount _ | .textEnd | .unknownEscape _ _
  | .dotOutsideList | .unmatchedClose | .dotFirst | .dotLast | .dotNotClosed
  | .unknownToken _ _ => true
  | _ => false

/-- The reader stops at a token, for want of room or because the token is out of place. -/
def Pending.Stops (pending : Pending) (move : Move) : Prop :=
  ∃ fault, (move = .fail fault ∨ move = .refuse fault) ∧
    (fault.isRefusal ∨ pending.room ≤ 1 ∧ fault = .nestedTooDeeply)

theorem isRefusal_of_readAtom {token : String} {fault : Fault}
    (read : readAtom token = .error fault) : fault.isRefusal := by
  rcases readAtom_error read with ⟨_, _, rfl, -⟩ | rfl | ⟨rfl, -⟩ | rfl <;> rfl

theorem isRefusal_of_readString {token : String} {fault : Fault}
    (read : readString token = .error fault) : fault.isRefusal := by
  rcases readString_error read with rfl | ⟨escape, rfl⟩ <;> rfl

namespace Pending

theorem stops_fail {fault : Fault} (pending : Pending) (refused : fault.isRefusal) :
    pending.Stops (.fail fault) := ⟨fault, .inl rfl, .inl refused⟩

theorem stops_refuse {fault : Fault} (pending : Pending) (refused : fault.isRefusal) :
    pending.Stops (.refuse fault) := ⟨fault, .inr rfl, .inl refused⟩

theorem takes_startExpr (room : Nat) (frames : List Frame) (token : Token) :
    Takes (.expr room frames) token (startExpr room frames token)
      ∨ Stops (.expr room frames) (startExpr room frames token) := by
  obtain ⟨kind, text⟩ := token
  cases room with
  | zero => exact .inr ⟨_, .inr rfl, .inr ⟨Nat.zero_le 1, rfl⟩⟩
  | succ room =>
      cases kind with
      | quote =>
          cases room with
          | zero => exact .inr ⟨_, .inl rfl, .inr ⟨Nat.le_refl 1, rfl⟩⟩
          | succ room => exact .inl (.quote room frames rfl)
      | lparen => exact .inl (.opening room frames rfl)
      | rparen | other => exact .inr (stops_refuse _ rfl)
      | string =>
          have started : startExpr (room + 1) frames ⟨.string, text⟩
              = resumeLiteral (room + 1) frames ((readString text).map .str) := rfl
          rw [started]
          cases read : readString text with
          | ok body => exact .inl (.literal room frames (.string read))
          | error fault => exact .inr (stops_fail _ (isRefusal_of_readString read))
      | atom =>
          by_cases isDot : text = "."
          · subst isDot
            exact .inr (stops_fail _ rfl)
          · have word : Token.isDot ⟨.atom, text⟩ = false := by simp [Token.isDot, isDot]
            have started : startExpr (room + 1) frames ⟨.atom, text⟩
                = resumeLiteral (room + 1) frames (readAtom text) := by simp [startExpr, word]
            rw [started]
            cases read : readAtom text with
            | ok value => exact .inl (.literal room frames (.atom isDot read))
            | error fault => exact .inr (stops_fail _ (isRefusal_of_readAtom read))

/-- **A token is accepted or stops the reader.** -/
theorem takes_step (pending : Pending) (token : Token) :
    Takes pending token (pending.step token) ∨ pending.Stops (pending.step token) := by
  cases pending with
  | close room items tail frames =>
      by_cases close : token.kind = .rparen
      · rw [step, if_pos close]
        exact .inl (.closingTail room items tail frames close)
      · rw [step, if_neg close]
        exact .inr (stops_refuse _ rfl)
  | expr room frames =>
      rcases frames with _ | ⟨_ | items | items, outer⟩
      · exact takes_startExpr room _ token
      · exact takes_startExpr room _ token
      · by_cases close : token.kind = .rparen
        · rw [step, if_pos close]
          exact .inl (.closing room items outer close)
        by_cases isDot : token.isDot
        · rw [step, if_neg close, if_pos isDot]
          cases items with
          | nil => exact .inr (stops_refuse _ rfl)
          | cons item items => exact .inl (.dot room outer isDot (List.cons_ne_nil _ _))
        · rw [step, if_neg close, if_neg isDot]
          exact takes_startExpr room _ token
      · by_cases close : token.kind = .rparen
        · rw [step, if_pos close]
          exact .inr (stops_refuse _ rfl)
        · rw [step, if_neg close]
          exact takes_startExpr room _ token

section Inversion

variable {pending : Pending} {token : Token} {move : Move}

theorem takes_of_step (step : pending.step token = move) (goesOn : move.goesOn) :
    pending.Takes token move := by
  subst step
  rcases pending.takes_step token with takes | ⟨fault, stopped | stopped, -⟩
  · exact takes
  · rw [stopped] at goesOn
    cases goesOn
  · rw [stopped] at goesOn
    cases goesOn

theorem stops_of_step (step : pending.step token = move) (stopped : move.goesOn = false) :
    pending.Stops move := by
  subst step
  refine (pending.takes_step token).resolve_left fun takes => ?_
  rw [takes.goesOn] at stopped
  cases stopped

end Inversion

end Pending

/-! ### What is read is readable -/

/-- The values that an open expression has read so far. -/
def Frame.items : Frame → List Value
  | .quote => []
  | .list items | .tail items => items

/-- All values in the frames are readable. -/
def FramesReadable (frames : List Frame) : Prop :=
  ∀ frame ∈ frames, ∀ item ∈ frame.items, item.isReadable

/-- All values that the reader holds are readable. -/
def Pending.HoldsReadable : Pending → Prop
  | .expr _ frames => FramesReadable frames
  | .close _ items tail frames =>
    (∀ item ∈ items, item.isReadable) ∧ tail.isReadable ∧ FramesReadable frames

/-- The faults that reading can end with. -/
def Fault.isReading : Fault → Bool
  | .nestedTooDeeply | .textEnd | .digitCount _ => true
  | fault => fault.kind? = some .read

/-- All values that a move hands on are readable, and its fault is one of reading. -/
def Move.HoldsReadable : Move → Prop
  | .more pending => pending.HoldsReadable
  | .done value => value.isReadable
  | .fail fault | .refuse fault => fault.isReading

theorem isReading_of_readAtom {token : String} {fault : Fault}
    (read : readAtom token = .error fault) : fault.isReading := by
  rcases readAtom_error read with ⟨_, _, rfl, -⟩ | rfl | ⟨rfl, -⟩ | rfl <;> rfl

theorem isReading_of_readString {token : String} {fault : Fault}
    (read : (readString token).map Value.str = .error fault) : fault.isReading := by
  cases text : readString token with
  | ok body =>
      rw [text] at read
      cases read
  | error cause =>
      rw [text] at read
      cases read
      rcases readString_error text with rfl | ⟨escape, rfl⟩ <;> rfl

theorem framesReadable_cons {frame : Frame} {frames : List Frame} :
    FramesReadable (frame :: frames) ↔ (∀ item ∈ frame.items, item.isReadable)
      ∧ FramesReadable frames := List.forall_mem_cons

/-- A complete expression stays readable in the frames that take it. -/
theorem holdsReadable_resume {value : Value} (room : Nat) {frames : List Frame}
    (readable : value.isReadable) (held : FramesReadable frames) :
    (resume value room frames).HoldsReadable := by
  induction frames generalizing value room with
  | nil => exact readable
  | cons frame outer ih =>
      obtain ⟨items, others⟩ := framesReadable_cons.mp held
      cases frame with
      | quote =>
          refine ih (room + 1) ?_ others
          refine Value.isReadable_chain.mpr ⟨List.forall_mem_cons.mpr ⟨by decide, ?_⟩, rfl⟩
          exact List.forall_mem_singleton.mpr readable
      | list taken =>
          exact framesReadable_cons.mpr ⟨List.forall_mem_cons.mpr ⟨readable, items⟩, others⟩
      | tail taken => exact ⟨items, readable, others⟩

theorem holdsReadable_startExpr (room : Nat) {frames : List Frame} (token : Token)
    (held : FramesReadable frames) : (startExpr room frames token).HoldsReadable := by
  have literal : ∀ read : Except Fault Value, (∀ value, read = .ok value → value.isReadable) →
      (∀ fault, read = .error fault → fault.isReading) →
      (resumeLiteral room frames read).HoldsReadable := by
    intro read readable refused
    cases read with
    | ok value => exact holdsReadable_resume room (readable value rfl) held
    | error fault => exact refused fault rfl
  have opened : ∀ frame : Frame, frame.items = [] → FramesReadable (frame :: frames) := by
    intro frame empty
    refine framesReadable_cons.mpr ⟨?_, held⟩
    rw [empty]
    exact fun item member => absurd member List.not_mem_nil
  unfold startExpr
  split
  · rfl
  split
  · split
    · rfl
    · refine literal _ (fun value read => ?_) fun fault => isReading_of_readAtom
      have atom := isLiteral_of_readAtom read
      cases value with
      | pair => cases atom
      | _ => exact atom
  · refine literal _ (fun value read => ?_) fun fault => isReading_of_readString
    cases text : readString token.text <;> rw [text] at read <;> cases read
    rfl
  · split
    · rfl
    · exact opened .quote rfl
  · exact opened (.list []) rfl
  · rfl
  · rfl

/-- **One token keeps what the reader holds readable.** -/
theorem holdsReadable_step {pending : Pending} (token : Token) (held : pending.HoldsReadable) :
    (pending.step token).HoldsReadable := by
  have chained : ∀ {items : List Value} {tail : Value} {frames : List Frame} (room : Nat),
      (∀ item ∈ items, item.isReadable) → tail.isReadable → FramesReadable frames →
      (resume (Value.chain items.reverse tail) room frames).HoldsReadable := by
    intro items tail frames room each last others
    refine holdsReadable_resume room (Value.isReadable_chain.mpr ⟨?_, last⟩) others
    exact fun item member => each item (List.mem_reverse.mp member)
  unfold Pending.step
  split
  · obtain ⟨items, tail, others⟩ := held
    split
    · exact chained _ items tail others
    · rfl
  · obtain ⟨items, others⟩ := framesReadable_cons.mp held
    split
    · exact chained _ items rfl others
    split
    · split
      · rfl
      · exact framesReadable_cons.mpr ⟨items, others⟩
    · exact holdsReadable_startExpr _ token held
  · split
    · rfl
    · exact holdsReadable_startExpr _ token held
  · exact holdsReadable_startExpr _ token held

theorem isReading_endFault? {pending : Pending} {fault : Fault}
    (ended : pending.endFault? = some fault) : fault.isReading := by
  unfold Pending.endFault? at ended
  split at ended <;> cases ended <;> rfl

/-- **What is read from any tokens is readable**, and if reading fails, it is a fault of reading. -/
theorem readAllFrom_readable (room : Nat) {ending : Option Fault} {pending : Pending}
    {forms : List Value} (tokens : List Token) (held : pending.HoldsReadable)
    (complete : ∀ form ∈ forms, form.isReadable) (closing : ∀ fault ∈ ending, fault.isReading) :
    (∀ form ∈ (TokenStream.readAllFrom room ending pending forms tokens).1.forms,
      form.isReadable) ∧
    ∀ fault ∈ (TokenStream.readAllFrom room ending pending forms tokens).1.fault,
      fault.isReading := by
  have stopped : ∀ form ∈ forms.reverse, form.isReadable := fun form member =>
    complete form (List.mem_reverse.mp member)
  induction tokens generalizing pending forms with
  | nil =>
      refine ⟨stopped, fun fault found => ?_⟩
      cases ending with
      | some first => exact closing fault found
      | none => exact isReading_endFault? found
  | cons token rest ih =>
      rw [TokenStream.readAllFrom_cons]
      have next := holdsReadable_step token held
      cases move : pending.step token with
      | more later =>
          rw [move] at next
          exact ih next complete stopped
      | done value =>
          rw [move] at next
          have readable : ∀ form ∈ value :: forms, form.isReadable :=
            List.forall_mem_cons.mpr ⟨next, complete⟩
          exact ih (fun frame member => absurd member List.not_mem_nil) readable
            fun form member => readable form (List.mem_reverse.mp member)
      | fail fault | refuse fault =>
          rw [move] at next
          refine ⟨stopped, fun cause found => ?_⟩
          cases found
          exact next

/-- The fault of a text that cannot be split into tokens. -/
theorem eq_openString_of_lex {source : String} {fault : Fault} (found : fault ∈ (lex source).fault) :
    ∃ position, fault = .openString position := by
  unfold lex lexChars Scanner.finish at found
  split at found <;> cases found
  exact ⟨_, rfl⟩

theorem isReading_lex {source : String} {fault : Fault} (found : fault ∈ (lex source).fault) :
    fault.isReading := by
  obtain ⟨position, rfl⟩ := eq_openString_of_lex found
  rfl

/-- **Every form of every text is readable**, and a text that cannot be read to its end fails with a
fault of reading. -/
theorem readSource_readable (room : Nat) (source : String) :
    (∀ form ∈ (readSource room source).forms, form.isReadable) ∧
    ∀ fault ∈ (readSource room source).fault, fault.isReading :=
  readAllFrom_readable room _ (fun _ member => absurd member List.not_mem_nil)
    (fun _ member => absurd member List.not_mem_nil) fun _ found => isReading_lex found

section Parse

variable {room : Nat} {source : String}

theorem parse_eq_ok_iff {values : List Value} :
    parse room source = .ok values ↔ readSource room source = ⟨values, none⟩ := by
  rw [parse]
  obtain ⟨forms, _ | fault⟩ := readSource room source <;> simp

theorem parse_eq_error_iff {fault : Fault} :
    parse room source = .error fault ↔ (readSource room source).fault = some fault := by
  rw [parse]
  obtain ⟨forms, _ | cause⟩ := readSource room source <;> simp

end Parse

end SmallLisp
