/-
**The grammar of expressions.**

    expr ::= literal | quote expr | '(' expr* ')' | '(' expr+ '.' expr ')'

`Derives` says which tokens are an expression and what value they stand for, `DerivesEach` the same
of expressions in a row. The reader accepts exactly that:

* `Derives.reads`: the reader goes through the tokens of an expression and hands its value to the
  frames that wait for it;
* `consumed_step`: whatever token is accepted, the tokens used up so far are those that opened the
  frames, with whole expressions in between (`Opened`);
* `readExpr_ok_iff`: one expression is read if and only if the stream starts with one;
* `readAll_ok_iff`: all expressions are read if and only if the stream is made of them.
-/

import SmallLisp.Proofs.Reader.Reads

namespace SmallLisp

mutual

/-- The tokens are one expression, which stands for the value. -/
inductive Derives : List Token → Value → Prop
  | literal {token : Token} {value : Value} (literal : token.Denotes value) :
      Derives [token] value
  | quote {mark : Token} {tokens : List Token} {value : Value} (marks : mark.kind = .quote)
      (quoted : Derives tokens value) :
      Derives (mark :: tokens) (Value.ofList [.sym "quote", value])
  | list {opening closing : Token} {tokens : List Token} {items : List Value}
      (opens : opening.kind = .lparen) (elements : DerivesEach tokens items)
      (closes : closing.kind = .rparen) :
      Derives (opening :: tokens ++ [closing]) (Value.ofList items)
  | dotted {opening dot closing : Token} {tokens last : List Token} {items : List Value}
      {tail : Value} (opens : opening.kind = .lparen) (elements : DerivesEach tokens items)
      (nonempty : items ≠ []) (isDot : dot.isDot) (ended : Derives last tail)
      (closes : closing.kind = .rparen) :
      Derives (opening :: tokens ++ dot :: last ++ [closing]) (Value.chain items tail)

/-- The tokens are expressions in a row, which stand for the values. -/
inductive DerivesEach : List Token → List Value → Prop
  | nil : DerivesEach [] []
  | cons {first rest : List Token} {value : Value} {values : List Value}
      (head : Derives first value) (others : DerivesEach rest values) :
      DerivesEach (first ++ rest) (value :: values)

end

theorem Derives.ne_nil {tokens : List Token} {value : Value} (derives : Derives tokens value) :
    tokens ≠ [] := by
  cases derives <;> simp

theorem Derives.each {tokens : List Token} {value : Value} (derives : Derives tokens value) :
    DerivesEach tokens [value] := by
  have row := DerivesEach.cons derives .nil
  rwa [List.append_nil] at row

theorem DerivesEach.append : ∀ {first second : List Token} {values others : List Value},
    DerivesEach first values → DerivesEach second others →
      DerivesEach (first ++ second) (values ++ others)
  | _, _, _, _, .nil, rest => rest
  | _, _, _, _, .cons head others, rest => by
      rw [List.append_assoc]
      exact .cons head (others.append rest)

/-! ### What the grammar derives is read -/

/-- A token that goes on an expression is taken by the reader. -/
theorem Pending.Takes.step_eq {pending : Pending} {token : Token} {move : Move}
    (takes : pending.Takes token move) : pending.step token = move := by
  cases takes with
  | literal room frames literal =>
      cases literal with
      | atom word read => rw [step_atom word, read, resumeLiteral]
      | string read =>
          rw [step_string, read]
          rfl
  | quote room frames kind =>
      have notClose : token.kind ≠ .rparen := by simp [kind]
      have notDot : token.isDot = false := by simp [Token.isDot, kind]
      rw [step_expr notClose notDot]
      simp [startExpr, kind]
  | opening room frames kind =>
      have notClose : token.kind ≠ .rparen := by simp [kind]
      have notDot : token.isDot = false := by simp [Token.isDot, kind]
      rw [step_expr notClose notDot]
      simp [startExpr, kind]
  | closing room items frames kind => rw [step, if_pos kind]
  | @dot _ items room frames isDot nonempty =>
      have atom : token.kind = .atom := by simp_all [Token.isDot]
      have notClose : token.kind ≠ .rparen := by simp [atom]
      have some : items.isEmpty = false := by simpa using nonempty
      rw [step, if_neg notClose, if_pos isDot, some]
      rfl
  | closingTail room items tail frames kind => rw [step, if_pos kind]

namespace Reads

variable {pending later : Pending} {token : Token} {tokens : List Token} {move : Move}

theorem of_takes (takes : pending.Takes token (.more later)) (rest : Reads later tokens move) :
    Reads pending (token :: tokens) move := .next takes.step_eq rest

theorem ended (takes : pending.Takes token move) : Reads pending [token] move :=
  .last takes.step_eq

end Reads

mutual

/-- **The reader goes through every expression** and hands its value on. -/
theorem Derives.reads {tokens : List Token} {value : Value} (derives : Derives tokens value)
    (room : Nat) (frames : List Frame) (enough : tokens.length ≤ room) :
    Reads (.expr room frames) tokens (resume value room frames) := by
  obtain ⟨inner, rfl⟩ : ∃ inner, room = inner + 1 := by
    have := List.length_pos_iff.mpr derives.ne_nil
    exact ⟨room - 1, by omega⟩
  match derives with
  | .literal literal => exact .ended (.literal inner frames literal)
  | @Derives.quote mark quotedTokens value marks quoted =>
      -- what is quoted has a token, so there is room behind the mark
      obtain ⟨spare, rfl⟩ : ∃ spare, inner = spare + 1 := by
        have := List.length_pos_iff.mpr quoted.ne_nil
        exact ⟨inner - 1, by simp at enough; omega⟩
      refine .of_takes (.quote spare frames marks) ?_
      exact quoted.reads (spare + 1) (.quote :: frames) (by simp at enough; omega)
  | @Derives.list opening closing inside items opens elements closes =>
      have row := elements.reads inner [] frames (by simp at enough; omega)
      rw [List.append_nil] at row
      have closed := Reads.ended (.closing inner items.reverse frames closes)
      rw [List.reverse_reverse] at closed
      exact .of_takes (.opening inner frames opens) (row.append closed)
  | @Derives.dotted opening dot closing inside last items tail opens elements nonempty isDot ended
      closes =>
      have row := elements.reads inner [] frames (by simp at enough; omega)
      rw [List.append_nil] at row
      have point := Pending.Takes.dot inner frames isDot (List.reverse_ne_nil_iff.mpr nonempty)
      have behind := ended.reads inner (.tail items.reverse :: frames) (by simp at enough; omega)
      have closed := Reads.ended (.closingTail inner items.reverse tail frames closes)
      rw [List.reverse_reverse] at closed
      rw [List.append_assoc]
      exact .of_takes (.opening inner frames opens)
        (row.append (.of_takes point (behind.append closed)))

theorem DerivesEach.reads {tokens : List Token} {values : List Value}
    (derives : DerivesEach tokens values) (room : Nat) (items : List Value) (frames : List Frame)
    (enough : tokens.length ≤ room) :
    Reads (.expr room (.list items :: frames)) tokens
      (.more (.expr room (.list (values.reverse ++ items) :: frames))) := by
  match derives with
  | .nil => exact .nothing _
  | @DerivesEach.cons first rest value values head others =>
      have one := head.reads room (.list items :: frames) (by simp at enough; omega)
      have more := others.reads room (value :: items) frames (by simp at enough; omega)
      rw [List.reverse_cons, List.append_assoc]
      exact one.append more

end

/-- A run that completes an expression is what reading one expression does with its tokens. -/
theorem Reads.readExprFrom_eq {pending : Pending} {tokens : List Token} {value : Value}
    (run : Reads pending tokens (.done value)) (ending : Option Fault) (rest : List Token) :
    TokenStream.readExprFrom ending pending (tokens ++ rest)
      = (.ok (some value), ⟨none, rest, ending⟩) := by
  generalize reached : Move.done value = move at run
  induction run with
  | nothing => cases reached
  | last step =>
      subst reached
      rw [List.singleton_append, TokenStream.readExprFrom, step]
  | next step _ ih =>
      rw [List.cons_append, TokenStream.readExprFrom, step]
      exact ih reached

/-- Reading all expressions takes up expressions in a row one after the other. -/
theorem DerivesEach.readAllFrom_eq {tokens : List Token} {values : List Value}
    (derives : DerivesEach tokens values) {room : Nat} (enough : tokens.length ≤ room)
    (ending : Option Fault) (forms : List Value) (rest : List Token) :
    TokenStream.readAllFrom room ending (.start room) forms (tokens ++ rest)
      = TokenStream.readAllFrom room ending (.start room) (values.reverse ++ forms) rest := by
  match derives with
  | .nil => rfl
  | @DerivesEach.cons first others value values head row =>
      rw [List.length_append] at enough
      have one : Reads (.start room) first (.done value) := head.reads room [] (by omega)
      rw [List.append_assoc, one.readAllFrom_eq]
      show TokenStream.readAllFrom room ending (.start room) (value :: forms) (others ++ rest) = _
      rw [row.readAllFrom_eq (by omega) ending (value :: forms) rest]
      rw [List.reverse_cons, List.append_assoc, List.singleton_append]

/-! ### What is read the grammar derives -/

/-- The tokens that opened the frames, with the expressions that the frames hold. -/
inductive Opened : List Token → List Frame → Prop
  | top : Opened [] []
  | quote {before : List Token} {frames : List Frame} {mark : Token}
      (outer : Opened before frames) (marks : mark.kind = .quote) :
      Opened (before ++ [mark]) (.quote :: frames)
  | list {before tokens : List Token} {frames : List Frame} {opening : Token}
      {items : List Value} (outer : Opened before frames) (opens : opening.kind = .lparen)
      (elements : DerivesEach tokens items.reverse) :
      Opened (before ++ opening :: tokens) (.list items :: frames)
  | tail {before tokens : List Token} {frames : List Frame} {opening dot : Token}
      {items : List Value} (outer : Opened before frames) (opens : opening.kind = .lparen)
      (elements : DerivesEach tokens items.reverse) (nonempty : items ≠ []) (isDot : dot.isDot) :
      Opened (before ++ opening :: tokens ++ [dot]) (.tail items :: frames)

/-- The tokens that brought the reader to where it stands. -/
def Pending.Consumed (tokens : List Token) : Pending → Prop
  | .expr _ frames => Opened tokens frames
  | .close _ items tail frames => ∃ before last, tokens = before ++ last ∧
      Opened before (.tail items :: frames) ∧ Derives last tail

theorem consumed_start (room : Nat) : (Pending.start room).Consumed [] := Opened.top

/-- The tokens that led to a move: those of the expression, if it is complete. -/
def Move.Consumed (tokens : List Token) : Move → Prop
  | .more pending => pending.Consumed tokens
  | .done value => Derives tokens value
  | .fail _ | .refuse _ => True

/-- **A complete expression** is taken over by the frames around it. -/
theorem consumed_resume {frames : List Frame} {before tokens : List Token} {value : Value}
    (room : Nat) (opened : Opened before frames) (derives : Derives tokens value) :
    (resume value room frames).Consumed (before ++ tokens) := by
  -- on the frames: a quote is complete with its expression and goes on outwards, the others wait
  induction opened generalizing tokens value room with
  | top => exact derives
  | quote outer marks ih =>
      rw [List.append_assoc]
      exact ih (room + 1) (.quote marks derives)
  | @list before inside frames opening items outer opens elements ih =>
      show Opened _ (.list (value :: items) :: frames)
      rw [List.append_assoc, List.cons_append]
      refine .list outer opens ?_
      rw [List.reverse_cons]
      exact elements.append derives.each
  | tail outer opens elements nonempty isDot ih =>
      exact ⟨_, tokens, rfl, .tail outer opens elements nonempty isDot, derives⟩

/-- **A token that is accepted** keeps the account of the tokens used up. -/
theorem consumed_step {pending : Pending} {before : List Token} {token : Token} {move : Move}
    (consumed : pending.Consumed before) (takes : pending.Takes token move) :
    move.Consumed (before ++ [token]) := by
  cases takes with
  | literal room frames literal => exact consumed_resume _ consumed (.literal literal)
  | quote room frames kind => exact .quote consumed kind
  | opening room frames kind => exact .list consumed kind .nil
  | closing room items frames kind =>
      cases consumed with
      | list outer opens elements =>
          rw [List.append_assoc]
          exact consumed_resume _ outer (.list opens elements kind)
  | dot room frames isDot nonempty =>
      cases consumed with
      | list outer opens elements => exact .tail outer opens elements nonempty isDot
  | closingTail room items tail frames kind =>
      obtain ⟨before, last, rfl, opened, ended⟩ := consumed
      cases opened with
      | @tail outside inside _ opening dot _ outer opens elements nonempty isDot =>
          have derives := Derives.dotted opens elements
            (List.reverse_ne_nil_iff.mpr nonempty) isDot ended kind
          have whole := consumed_resume (room + 1) outer derives
          simpa using whole

/-- **An expression that is read** is derived from the tokens used up. -/
theorem derives_of_readExprFrom {ending : Option Fault} {pending : Pending}
    {before tokens : List Token} {value : Value} {later : TokenStream} (consumed : pending.Consumed before)
    (read : TokenStream.readExprFrom ending pending tokens = (.ok (some value), later)) :
    ∃ segment rest, tokens = segment ++ rest ∧ Derives (before ++ segment) value ∧
      later = ⟨none, rest, ending⟩ := by
  induction tokens generalizing pending before with
  | nil =>
      unfold TokenStream.readExprFrom at read
      split at read <;> cases read
  | cons token rest ih =>
      rw [TokenStream.readExprFrom] at read
      cases moved : pending.step token with
      | more next =>
          rw [moved] at read
          have onward := consumed_step consumed (Pending.takes_of_step moved rfl)
          obtain ⟨segment, left, rfl, derives, rfl⟩ := ih onward read
          refine ⟨token :: segment, left, rfl, ?_, rfl⟩
          rwa [List.append_assoc] at derives
      | done complete =>
          rw [moved] at read
          cases read
          have derives := consumed_step consumed (Pending.takes_of_step moved rfl)
          exact ⟨[token], rest, rfl, derives, rfl⟩
      | fail fault | refuse fault =>
          rw [moved] at read
          cases read

/-- If no expression has begun, no token was used up. -/
theorem eq_nil_of_consumed {pending : Pending} {tokens : List Token}
    (consumed : pending.Consumed tokens) (complete : pending.endFault? = none) : tokens = [] := by
  unfold Pending.endFault? at complete
  split at complete
  case h_2 =>
    cases consumed
    rfl
  all_goals cases complete

/-- Only an empty stream holds no expression. -/
theorem eq_nil_of_readExprFrom {ending : Option Fault} {pending : Pending}
    {before tokens : List Token} (consumed : pending.Consumed before)
    (read : (TokenStream.readExprFrom ending pending tokens).1 = .ok none) :
    ending = none ∧ before ++ tokens = [] := by
  induction tokens generalizing pending before with
  | nil =>
      unfold TokenStream.readExprFrom at read
      split at read
      case h_3 complete => exact ⟨rfl, by rw [eq_nil_of_consumed consumed complete]; rfl⟩
      all_goals cases read
  | cons token rest ih =>
      rw [TokenStream.readExprFrom] at read
      cases moved : pending.step token with
      | more next =>
          rw [moved] at read
          obtain ⟨-, empty⟩ := ih (consumed_step consumed (Pending.takes_of_step moved rfl)) read
          simp at empty
      | done | fail | refuse =>
          rw [moved] at read
          cases read

namespace TokenStream

/-- What reading all expressions does after reading one. -/
def readAllBehind (room : Nat) (forms : List Value) :
    Except Fault (Option Value) × TokenStream → Reading × TokenStream
  | (.ok (some value), later) =>
    readAllFrom room later.fault (.start room) (value :: forms) later.pending
  | (.ok none, later) => (⟨forms.reverse, none⟩, later)
  | (.error fault, later) => (⟨forms.reverse, some fault⟩, later)

/-- **All expressions are read one by one.** -/
theorem readAllFrom_eq_behind (room : Nat) (ending : Option Fault) (pending : Pending)
    (forms : List Value) (tokens : List Token) :
    readAllFrom room ending pending forms tokens
      = readAllBehind room forms (readExprFrom ending pending tokens) := by
  induction tokens generalizing pending with
  | nil =>
      unfold readAllFrom readExprFrom
      cases ending with
      | some fault => rfl
      | none => cases pending.endFault? <;> rfl
  | cons token rest ih =>
      rw [readAllFrom_cons, readExprFrom]
      cases pending.step token with
      | more next => exact ih next
      | done | fail | refuse => rfl

/-- **How reading all expressions ends**: after expressions in a row, where one more expression
cannot be read. -/
theorem readAllFrom_ends (room : Nat) (ending : Option Fault) (forms : List Value)
    (tokens : List Token) :
    ∃ row rest values, tokens = row ++ rest ∧ DerivesEach row values ∧
      (readAllFrom room ending (.start room) forms tokens).1.forms = forms.reverse ++ values ∧
      (readExprFrom ending (.start room) rest).1
        = match (readAllFrom room ending (.start room) forms tokens).1.fault with
          | none => .ok none
          | some fault => .error fault := by
  -- on the number of tokens: every expression that is read uses up at least one
  induction size : tokens.length using Nat.strong_induction_on generalizing forms tokens with
  | h size ih =>
      subst size
      rw [readAllFrom_eq_behind]
      have here : tokens = [] ++ tokens := rfl
      have alone : forms.reverse = forms.reverse ++ [] := (List.append_nil _).symm
      rcases read : readExprFrom ending (.start room) tokens with ⟨fault | _ | value, later⟩
      · exact ⟨[], tokens, [], here, .nil, alone, by rw [read]; rfl⟩
      · exact ⟨[], tokens, [], here, .nil, alone, by rw [read]; rfl⟩
      · obtain ⟨segment, rest, rfl, derives, rfl⟩ := derives_of_readExprFrom (consumed_start room) read
        have shorter : rest.length < (segment ++ rest).length := by
          have := List.length_pos_iff.mpr derives.ne_nil
          simpa using this
        obtain ⟨row, left, values, rfl, each, complete, ended⟩ :=
          ih rest.length shorter (value :: forms) rest rfl
        refine ⟨segment ++ row, left, value :: values, by rw [List.append_assoc],
          .cons derives each, ?_, ended⟩
        rw [← List.singleton_append, ← List.append_assoc, ← List.reverse_cons]
        exact complete

theorem readAll_ends (stream : TokenStream) (room : Nat) :
    ∃ row rest values, stream.pending = row ++ rest ∧ DerivesEach row values ∧
      (stream.readAll room).1.forms = values ∧
      (readExprFrom stream.fault (.start room) rest).1
        = match (stream.readAll room).1.fault with
          | none => .ok none
          | some fault => .error fault :=
  readAllFrom_ends room stream.fault [] stream.pending

end TokenStream

/-! ### Room -/

/-- The room after a complete expression is no less than before. -/
theorem room_resume {value : Value} {room : Nat} {frames : List Frame} {later : Pending}
    (more : resume value room frames = .more later) : room ≤ later.room := by
  induction frames generalizing value room with
  | nil => cases more
  | cons frame outer ih =>
      cases frame with
      | quote => exact (Nat.le_succ room).trans (ih more)
      | list | tail =>
          cases more
          exact Nat.le_refl _

/-- A token takes up room for at most one expression. -/
theorem Pending.Takes.room_le {pending later : Pending} {token : Token} {move : Move}
    (takes : pending.Takes token move) (more : move = .more later) :
    pending.room ≤ later.room + 1 := by
  cases takes with
  | literal => exact (room_resume more).trans (Nat.le_succ _)
  | quote | opening =>
      cases more
      exact Nat.le_refl _
  | closing | closingTail =>
      exact (Nat.le_succ _).trans ((room_resume more).trans (Nat.le_succ _))
  | dot =>
      cases more
      exact Nat.le_succ _

/-- With room for what the token may open, no token fails for want of room. -/
theorem ne_nestedTooDeeply {pending : Pending} {token : Token} {fault : Fault}
    (room : 1 < pending.room) (fails : (pending.step token).Fails fault) :
    fault ≠ .nestedTooDeeply := by
  obtain ⟨cause, found, refused | ⟨none, -⟩⟩ := Pending.stops_of_step rfl fails.goesOn
  · have same : fault = cause := fails.unique found
    subst same
    rintro rfl
    cases refused
  · omega

namespace TokenStream

/-- **With room for more than all its tokens**, reading one expression never fails for want of room:
a token opens at most one expression, and one may be open at the end. -/
theorem readExprFrom_nested {ending : Option Fault} {pending : Pending} {tokens : List Token}
    (enough : tokens.length < pending.room)
    (failed : (readExprFrom ending pending tokens).1 = .error .nestedTooDeeply) :
    ending = some .nestedTooDeeply := by
  induction tokens generalizing pending with
  | nil =>
      unfold readExprFrom at failed
      split at failed
      · cases failed
        rfl
      · next ended =>
          cases failed
          unfold Pending.endFault? at ended
          split at ended <;> cases ended
      · cases failed
  | cons token rest ih =>
      rw [List.length_cons] at enough
      rw [readExprFrom] at failed
      cases moved : pending.step token with
      | more next =>
          rw [moved] at failed
          have room := (Pending.takes_of_step moved rfl).room_le rfl
          exact ih (by omega) failed
      | done value =>
          rw [moved] at failed
          cases failed
      | fail fault =>
          rw [moved] at failed
          cases failed
          exact absurd rfl (ne_nestedTooDeeply (by omega) (.inl moved))
      | refuse fault =>
          rw [moved] at failed
          cases failed
          exact absurd rfl (ne_nestedTooDeeply (by omega) (.inr moved))

end TokenStream

/-! ### The reader accepts exactly the grammar -/

/-- **No tokens are two expressions**: not even with other tokens behind them. -/
theorem Derives.unique {segment other rest behind : List Token} {value last : Value}
    (derives : Derives segment value) (derives' : Derives other last)
    (same : segment ++ rest = other ++ behind) : segment = other ∧ value = last := by
  -- the reader goes through both, and it has only one outcome
  have first : Reads (.start (segment.length + other.length)) segment (.done value) :=
    derives.reads _ [] (by omega)
  have second : Reads (.start (segment.length + other.length)) other (.done last) :=
    derives'.reads _ [] (by omega)
  have one := first.readExprFrom_eq none rest
  have two := second.readExprFrom_eq none behind
  rw [same, two] at one
  injection one with values streams
  injection values with values
  injection values with values
  injection streams with _ left
  subst left
  exact ⟨List.append_cancel_right same, values.symm⟩

section Streams

variable {room : Nat} {stream : TokenStream}

/-- One expression is read if and only if the stream starts with one. -/
theorem readExpr_ok_iff (enough : stream.pending.length ≤ room) (value : Value)
    (later : TokenStream) :
    stream.readExpr room = (.ok (some value), later) ↔
      ∃ segment rest, segment ≠ [] ∧ stream.pending = segment ++ rest ∧ Derives segment value ∧
        later = ⟨none, rest, stream.fault⟩ := by
  constructor
  · intro read
    obtain ⟨segment, rest, split, derives, left⟩ := derives_of_readExprFrom (consumed_start room) read
    exact ⟨segment, rest, derives.ne_nil, split, derives, left⟩
  · rintro ⟨segment, rest, -, split, derives, rfl⟩
    rw [split, List.length_append] at enough
    have run : Reads (.start room) segment (.done value) := derives.reads room [] (by omega)
    rw [TokenStream.readExpr, split]
    exact run.readExprFrom_eq stream.fault rest

theorem readExpr_none_iff :
    (stream.readExpr room).1 = .ok none ↔ stream.pending = [] ∧ stream.fault = none := by
  constructor
  · intro read
    obtain ⟨closed, empty⟩ := eq_nil_of_readExprFrom (consumed_start room) read
    exact ⟨empty, closed⟩
  · rintro ⟨empty, closed⟩
    rw [TokenStream.readExpr, empty, closed]
    rfl

/-- All expressions are read if and only if the stream is made of them. -/
theorem readAll_ok_iff (enough : stream.pending.length ≤ room) (values : List Value) :
    (stream.readAll room).1 = ⟨values, none⟩ ↔
      stream.fault = none ∧ DerivesEach stream.pending values := by
  constructor
  · intro read
    obtain ⟨row, rest, found, split, derives, forms, ended⟩ := stream.readAll_ends room
    rw [read] at forms ended
    obtain ⟨closed, rfl⟩ := eq_nil_of_readExprFrom (consumed_start room) ended
    rw [List.append_nil] at split
    rw [split, show values = found from forms]
    exact ⟨closed, derives⟩
  · rintro ⟨closed, derives⟩
    have read := derives.readAllFrom_eq enough stream.fault [] []
    rw [List.append_nil, List.append_nil, closed] at read
    rw [TokenStream.readAll, closed, read]
    simp [TokenStream.readAllFrom, Pending.start, Pending.endFault?]

theorem readAll_nested (enough : stream.pending.length < room)
    (failed : (stream.readAll room).1.fault = some .nestedTooDeeply) :
    stream.fault = some .nestedTooDeeply := by
  obtain ⟨row, rest, values, split, -, -, ended⟩ := stream.readAll_ends room
  rw [failed] at ended
  rw [split, List.length_append] at enough
  exact TokenStream.readExprFrom_nested (show rest.length < room by omega) ended

end Streams

/-- Room for as many expressions as there are tokens is not enough: a quote mark asks for one more, also
at the end. -/
example : (readSource 1 "'").fault = some .nestedTooDeeply ∧
    (readSource 2 "'").fault = some .quoteAtEnd := by decide +kernel

/-- **The reader accepts exactly the grammar.** With room for more than all the tokens of a stream:

* one expression is read, and its value returned, if and only if the stream starts with the tokens
  of an expression of that value; the tokens behind them are left;
* all expressions are read if and only if the stream is made of expressions in a row and no fault
  stands behind its last token;
* every other stream fails, one that has come to its end apart, and not for want of room;
* the tokens of an expression are those of no other, nor do they start those of another. -/
theorem reader_accepts_grammar (room : Nat) (stream : TokenStream)
    (enough : stream.pending.length < room) :
    (∀ value later, stream.readExpr room = (.ok (some value), later) ↔
      ∃ segment rest, segment ≠ [] ∧ stream.pending = segment ++ rest ∧ Derives segment value ∧
        later = ⟨none, rest, stream.fault⟩) ∧
    (∀ values, (stream.readAll room).1 = ⟨values, none⟩ ↔
      stream.fault = none ∧ DerivesEach stream.pending values) ∧
    ((stream.pending ≠ [] ∨ stream.fault ≠ none) →
      (¬ ∃ segment rest value, stream.pending = segment ++ rest ∧ Derives segment value) →
      ∃ fault, (stream.readExpr room).1 = .error fault ∧
        (fault = .nestedTooDeeply → stream.fault = some fault)) ∧
    ((¬ ∃ values, stream.fault = none ∧ DerivesEach stream.pending values) →
      ∃ fault, (stream.readAll room).1.fault = some fault ∧
        (fault = .nestedTooDeeply → stream.fault = some fault)) ∧
    (∀ segment other rest behind value last, Derives segment value → Derives other last →
      segment ++ rest = other ++ behind → segment = other ∧ value = last) := by
  refine ⟨readExpr_ok_iff enough.le, readAll_ok_iff enough.le, ?_, ?_,
    fun _ _ _ _ _ _ => Derives.unique⟩
  · intro something noExpr
    rcases read : stream.readExpr room with ⟨fault | _ | value, later⟩
    · refine ⟨fault, rfl, ?_⟩
      rintro rfl
      exact TokenStream.readExprFrom_nested enough (congrArg Prod.fst read)
    · obtain ⟨empty, closed⟩ := readExpr_none_iff.mp (congrArg Prod.fst read)
      rcases something with left | left
      · exact absurd empty left
      · exact absurd closed left
    · obtain ⟨segment, rest, -, split, derives, -⟩ := (readExpr_ok_iff enough.le value later).mp read
      exact absurd ⟨segment, rest, value, split, derives⟩ noExpr
  · intro noRow
    cases failed : (stream.readAll room).1.fault with
    | none =>
        have read : (stream.readAll room).1 = ⟨(stream.readAll room).1.forms, none⟩ := by
          rw [← failed]
        exact absurd ⟨_, (readAll_ok_iff enough.le _).mp read⟩ noRow
    | some fault =>
        refine ⟨fault, rfl, ?_⟩
        rintro rfl
        exact readAll_nested enough failed

/-- A quoted pair is read, the parenthesis behind it is left, and all is no row of expressions. -/
theorem reader_accepts_grammar_extraClose :
    (TokenStream.ofLexed (lex "'(a . 1) )")).pending.length < 8 ∧
      (∃ segment rest, segment ≠ [] ∧
        (TokenStream.ofLexed (lex "'(a . 1) )")).pending = segment ++ rest ∧
        Derives segment (quoteForm (.pair (.sym "a") (.int 1))) ∧ rest = [⟨.rparen, ")"⟩]) ∧
      ∀ values, ¬ DerivesEach (lex "'(a . 1) )").tokens values := by
  have enough : (TokenStream.ofLexed (lex "'(a . 1) )")).pending.length < 8 := by decide +kernel
  have read : (TokenStream.ofLexed (lex "'(a . 1) )")).readExpr 8
      = (.ok (some (quoteForm (.pair (.sym "a") (.int 1)))), ⟨none, [⟨.rparen, ")"⟩], none⟩) := by
    decide +kernel
  obtain ⟨one, all, -⟩ := reader_accepts_grammar 8 _ enough
  obtain ⟨segment, rest, some, split, derives, left⟩ := (one _ _).mp read
  refine ⟨enough, ⟨segment, rest, some, split, derives, ?_⟩, fun values row => ?_⟩
  · injection left with _ left
    exact left.symm
  · have complete := (all values).mpr ⟨rfl, row⟩
    have failed : ((TokenStream.ofLexed (lex "'(a . 1) )")).readAll 8).1.fault
        = Option.some .unmatchedClose := by decide +kernel
    rw [complete] at failed
    cases failed

end SmallLisp
