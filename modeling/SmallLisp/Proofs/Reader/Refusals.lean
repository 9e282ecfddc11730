/-
**What reading can fail with.**

A text is read to its end, or it is refused with a fault of reading. The one other ending is a number
of more digits than are ever read, and only where the reader reaches it with nothing refused before
it: behind whole expressions and the tokens that opened the one it stands in.

* `readAtom_numeral`: a numeral fails for its number of digits or for its range, and for nothing else;
* `Token.Spelt.ne_textEnd`: the tokens of a text are never too short for what is read from them;
* `literal_of_fails`: a fault of no kind comes from a word or a string, never from where a token stands;
* `readExprFrom_fails` and `Opened.reads`: where the reader stands when it fails, and that it gets there;
* `parse_refuses_properly`: the whole account.
-/

import SmallLisp.Proofs.Reader.Grammar
import SmallLisp.Proofs.Reader.Layout

namespace SmallLisp

/-! ### Literals that are refused -/

/-- **The digits of a numeral have values**, so that only their number and the range of the integer can
be at fault. -/
theorem readAtom_numeral {text : String} {negative : Bool} {digits : List Char}
    (numeral : numeral? text.toList = some (negative, digits)) :
    (∀ c ∈ digits, (Text.digitValue? c).isSome) ∧
      (readAtom text = .error (.digitCount digits.length) ∧ Text.maxDigits < digits.length ∨
        digits.length ≤ Text.maxDigits ∧
          (readAtom text = .ok (.int (Text.signedValue negative (Text.digitsValue digits))) ∨
            readAtom text = .error (.integerRange text))) := by
  constructor
  · unfold numeral? at numeral
    dsimp only at numeral
    split at numeral
    · rename_i accepted
      cases numeral
      rw [Bool.and_eq_true] at accepted
      exact List.all_eq_true.mp accepted.2
    · cases numeral
  · rw [readAtom_of_numeral numeral, readNumeral]
    by_cases long : Text.maxDigits < digits.length
    · rw [if_pos long]
      exact .inl ⟨rfl, long⟩
    · rw [if_neg long]
      refine .inr ⟨Nat.le_of_not_lt long, ?_⟩
      by_cases inRange : inIntRange (Text.signedValue negative (Text.digitsValue digits))
      · exact .inl (if_pos inRange)
      · exact .inr (if_neg inRange)

theorem readAtom_ne_textEnd {text : String} (nonempty : text ≠ "") :
    readAtom text ≠ .error .textEnd := by
  intro read
  rcases readAtom_error read with ⟨_, _, other, -⟩ | other | ⟨-, empty⟩ | other
  · cases other
  · cases other
  · exact nonempty empty
  · cases other

/-- In the body of a string a backslash is never the last character. -/
theorem unescapeFrom_ne_textEnd (token : String) (done : List Char) {body : List Char}
    (isBody : StringBody body) : unescapeFrom token done body ≠ .error .textEnd := by
  induction isBody generalizing done with
  | nil =>
      intro failed
      cases failed
  | plain notBackslash _ _ ih =>
      rw [unescapeFrom_plain _ _ _ notBackslash]
      exact ih _
  | escape c _ ih =>
      rw [unescapeFrom, if_pos rfl]
      cases found : unescape? c with
      | some plain => exact ih (plain :: done)
      | none =>
          intro failed
          cases failed

theorem readString_ne_textEnd {body : List Char} (isBody : StringBody body) :
    readString (String.ofList ('\x22' :: body ++ ['\x22'])) ≠ .error .textEnd := by
  have inside : ((String.ofList ('\x22' :: body ++ ['\x22'])).toList.drop 1).dropLast = body := by
    rw [String.toList_ofList, List.cons_append, List.drop_succ_cons, List.drop_zero,
      List.dropLast_concat]
  have resolved := unescapeFrom_ne_textEnd (String.ofList ('\x22' :: body ++ ['\x22'])) [] isBody
  rw [readString, inside]
  intro read
  cases unescaped : unescapeFrom (String.ofList ('\x22' :: body ++ ['\x22'])) [] body with
  | ok chars =>
      rw [unescaped] at read
      cases read
  | error cause =>
      rw [unescaped] at read
      cases read
      exact resolved unescaped

/-- The word or the string of a token is refused. -/
def Token.Refused (token : Token) (fault : Fault) : Prop :=
  token.kind = .atom ∧ readAtom token.text = .error fault ∨
    token.kind = .string ∧ readString token.text = .error fault

/-- **A token of a text is long enough** for what is read from it. -/
theorem Token.Spelt.ne_textEnd {token : Token} (spelt : token.Spelt) : ¬ token.Refused .textEnd := by
  rintro (⟨kind, read⟩ | ⟨kind, read⟩)
  · cases spelt with
    | @atom word nonempty _ =>
        refine readAtom_ne_textEnd (fun empty => nonempty ?_) read
        rwa [← String.toList_eq_nil_iff, String.toList_ofList] at empty
    | _ => cases kind
  · cases spelt with
    | string isBody => exact readString_ne_textEnd isBody read
    | _ => cases kind

/-! ### Where the reader stops -/

/-- A literal fails only with its own fault. -/
theorem error_of_resumeLiteral {room : Nat} {frames : List Frame} {read : Except Fault Value}
    {fault : Fault} (fails : (resumeLiteral room frames read).Fails fault) : read = .error fault := by
  cases read with
  | ok value =>
      have quiet := fails.goesOn
      rw [resumeLiteral, goesOn_resume] at quiet
      cases quiet
  | error cause => rw [Move.Fails.unique (.inl rfl) fails]

theorem literal_of_startExpr {room : Nat} {frames : List Frame} {token : Token} {fault : Fault}
    (fails : (startExpr room frames token).Fails fault) (noKind : fault.kind? = none) :
    token.Refused fault := by
  -- every other fault of a token has a kind
  have other : ∀ cause : Fault, (startExpr room frames token).Fails cause → cause.kind? ≠ none →
      token.Refused fault := by
    intro cause fails' kind
    rw [fails'.unique fails] at kind
    exact absurd noKind kind
  obtain ⟨kind, text⟩ := token
  cases room with
  | zero => exact other .nestedTooDeeply (.inr rfl) nofun
  | succ inner =>
      cases kind with
      | quote =>
          cases inner with
          | zero => exact other .nestedTooDeeply (.inl rfl) nofun
          | succ spare => cases fails.goesOn
      | lparen => cases fails.goesOn
      | rparen => exact other .unmatchedClose (.inr rfl) nofun
      | other name => exact other (.unknownToken name text) (.inr rfl) nofun
      | string =>
          have read : (readString text).map Value.str = .error fault := error_of_resumeLiteral fails
          refine .inr ⟨rfl, ?_⟩
          cases body : readString text with
          | ok chars =>
              rw [body] at read
              cases read
          | error cause =>
              rw [body] at read
              cases read
              rfl
      | atom =>
          by_cases isDot : Token.isDot ⟨.atom, text⟩
          · exact other .dotOutsideList (.inl (by simp [startExpr, isDot])) nofun
          · have started : startExpr (inner + 1) frames ⟨.atom, text⟩
                = resumeLiteral (inner + 1) frames (readAtom text) := by simp [startExpr, isDot]
            rw [started] at fails
            exact .inl ⟨rfl, error_of_resumeLiteral fails⟩

/-- **A fault of no kind comes from a literal**, read where an expression is expected. -/
theorem literal_of_fails {pending : Pending} {token : Token} {fault : Fault}
    (fails : (pending.step token).Fails fault) (noKind : fault.kind? = none) :
    token.Refused fault ∧ ∃ room frames, pending = .expr room frames := by
  have misplaced : ∀ cause : Fault, pending.step token = .refuse cause → cause.kind? = none := by
    intro cause refused
    rwa [Move.Fails.unique (.inr refused) fails]
  have accepted : ∀ value room frames, pending.step token ≠ resume value room frames := by
    intro value room frames same
    have quiet := fails.goesOn
    rw [same, goesOn_resume] at quiet
    cases quiet
  cases pending with
  | close room items tail frames =>
      by_cases close : token.kind = .rparen
      · exact absurd (if_pos close) (accepted _ _ _)
      · cases misplaced .dotNotClosed (if_neg close)
  | expr room frames =>
      refine ⟨?_, room, frames, rfl⟩
      rcases frames with _ | ⟨_ | items | items, outer⟩
      · exact literal_of_startExpr fails noKind
      · exact literal_of_startExpr fails noKind
      · by_cases close : token.kind = .rparen
        · exact absurd (if_pos close) (accepted _ _ _)
        by_cases isDot : token.isDot
        · cases items with
          | nil => cases misplaced .dotFirst (by simp [Pending.step, close, isDot])
          | cons item items =>
              have quiet := fails.goesOn
              simp [Pending.step, close, isDot, Move.goesOn] at quiet
        · rw [Pending.step, if_neg close, if_neg isDot] at fails
          exact literal_of_startExpr fails noKind
      · by_cases close : token.kind = .rparen
        · cases misplaced .dotLast (if_pos close)
        · rw [Pending.step, if_neg close] at fails
          exact literal_of_startExpr fails noKind

/-- **Where the reader stands when it fails**: behind the tokens it has accepted, before one that it
does not accept or at the end. -/
theorem readExprFrom_fails {ending : Option Fault} {pending : Pending} {before tokens : List Token}
    {fault : Fault} (consumed : pending.Consumed before)
    (failed : (TokenStream.readExprFrom ending pending tokens).1 = .error fault) :
    (∃ segment token rest, tokens = segment ++ token :: rest ∧
      ∃ reached : Pending, reached.Consumed (before ++ segment) ∧ (reached.step token).Fails fault) ∨
    ending = some fault ∨ ∃ reached : Pending, reached.endFault? = some fault := by
  induction tokens generalizing pending before with
  | nil =>
      unfold TokenStream.readExprFrom at failed
      split at failed
      · cases failed
        exact .inr (.inl rfl)
      · rename_i ended
        cases failed
        exact .inr (.inr ⟨pending, ended⟩)
      · cases failed
  | cons token rest ih =>
      have here : before ++ [] = before := List.append_nil _
      rw [TokenStream.readExprFrom] at failed
      cases moved : pending.step token with
      | more next =>
          rw [moved] at failed
          have onward := consumed_step consumed (Pending.takes_of_step moved rfl)
          rcases ih onward failed with ⟨segment, stopper, left, rfl, reached, path, fails⟩ | other
          · refine .inl ⟨token :: segment, stopper, left, rfl, reached, ?_, fails⟩
            rwa [List.append_assoc] at path
          · exact .inr other
      | done value =>
          rw [moved] at failed
          cases failed
      | fail cause =>
          rw [moved] at failed
          cases failed
          exact .inl ⟨[], token, rest, rfl, pending, by rwa [here], .inl moved⟩
      | refuse cause =>
          rw [moved] at failed
          cases failed
          exact .inl ⟨[], token, rest, rfl, pending, by rwa [here], .inr moved⟩

/-- **The reader gets behind all tokens that open expressions.** -/
theorem Opened.reads {tokens : List Token} {frames : List Frame} (opened : Opened tokens frames)
    {room : Nat} (enough : tokens.length < room) :
    ∃ left, room ≤ left + tokens.length ∧ Reads (.start room) tokens (.more (.expr left frames)) := by
  induction opened with
  | top => exact ⟨room, Nat.le_refl _, .nothing _⟩
  | @quote before frames mark outer marks ih =>
      rw [List.length_append, List.length_singleton] at enough
      obtain ⟨left, some, run⟩ := ih (by omega)
      obtain ⟨inner, rfl⟩ : ∃ inner, left = inner + 2 := ⟨left - 2, by omega⟩
      refine ⟨inner + 1, ?_, run.append (.ended (.quote inner frames marks))⟩
      simp only [List.length_append, List.length_cons, List.length_nil]
      omega
  | @list before inside frames opening items outer opens elements ih =>
      rw [List.length_append, List.length_cons] at enough
      obtain ⟨left, some, run⟩ := ih (by omega)
      obtain ⟨inner, rfl⟩ : ∃ inner, left = inner + 1 := ⟨left - 1, by omega⟩
      have row := elements.reads inner [] frames (by omega)
      rw [List.append_nil, List.reverse_reverse] at row
      refine ⟨inner, ?_, run.append (.of_takes (.opening inner frames opens) row)⟩
      simp only [List.length_append, List.length_cons]
      omega
  | @tail before inside frames opening dot items outer opens elements nonempty isDot ih =>
      simp only [List.length_append, List.length_cons, List.length_nil] at enough
      obtain ⟨left, some, run⟩ := ih (by omega)
      obtain ⟨inner, rfl⟩ : ∃ inner, left = inner + 1 := ⟨left - 1, by omega⟩
      have row := elements.reads inner [] frames (by omega)
      rw [List.append_nil, List.reverse_reverse] at row
      have point := Reads.ended (Pending.Takes.dot inner frames isDot nonempty)
      refine ⟨inner, ?_, ?_⟩
      · simp only [List.length_append, List.length_cons, List.length_nil]
        omega
      · rw [List.append_assoc]
        exact run.append (.of_takes (.opening inner frames opens) (row.append point))

/-! ### The account -/

/-- A number of `count` digits, more than are ever read, stands behind whole expressions and the
tokens that opened the expression it stands in. -/
def ReachesLongNumeral (tokens : List Token) (count : Nat) : Prop :=
  ∃ row values opened frames token after, tokens = row ++ (opened ++ token :: after) ∧
    DerivesEach row values ∧ Opened opened frames ∧ token.kind = .atom ∧
    ∃ negative digits, numeral? token.text.toList = some (negative, digits) ∧
      digits.length = count ∧ Text.maxDigits < count

theorem ReachesLongNumeral.readSource_fault {source : String} {count room : Nat}
    (reaches : ReachesLongNumeral (lex source).tokens count)
    (enough : (lex source).tokens.length ≤ room) :
    (readSource room source).fault = some (.digitCount count) := by
  obtain ⟨row, values, opened, frames, token, after, split, derives, opening, kind, negative, digits,
    numeral, rfl, long⟩ := reaches
  obtain ⟨kind', text⟩ := token
  obtain rfl : kind' = .atom := kind
  rw [split] at enough
  simp only [List.length_append, List.length_cons] at enough
  obtain ⟨left, some, run⟩ := opening.reads (show opened.length < room by omega)
  obtain ⟨inner, rfl⟩ : ∃ inner, left = inner + 1 := ⟨left - 1, by omega⟩
  have word : text ≠ "." := by
    rintro rfl
    cases numeral
  have refused : readAtom text = .error (.digitCount digits.length) := by
    rw [readAtom_of_numeral numeral, readNumeral, if_pos long]
  have step : (Pending.expr (inner + 1) frames).step ⟨.atom, text⟩
      = .fail (.digitCount digits.length) := by
    rw [Pending.step_atom word, refused]
    rfl
  have stop := run.append (.last step)
  have whole : row ++ (opened ++ ⟨.atom, text⟩ :: after)
      = row ++ (opened ++ [⟨.atom, text⟩] ++ after) := by simp
  rw [readSource, TokenStream.readAll, TokenStream.pending_ofLexed, split, whole,
    derives.readAllFrom_eq (by omega), stop.readAllFrom_eq]
  rfl

/-- **A fault of no kind is a number of too many digits** that reading has reached. -/
theorem reachesLongNumeral_of_fault {source : String} {room : Nat} {fault : Fault}
    (failed : (readSource room source).fault = some fault) (noKind : fault.kind? = none) :
    ∃ count, fault = .digitCount count ∧ ReachesLongNumeral (lex source).tokens count := by
  obtain ⟨row, rest, values, split, derives, -, ended⟩ :=
    (TokenStream.ofLexed (lex source)).readAll_ends room
  rw [show ((TokenStream.ofLexed (lex source)).readAll room).1.fault = some fault from failed] at ended
  rw [TokenStream.pending_ofLexed] at split
  rcases readExprFrom_fails (consumed_start room) ended with
    ⟨segment, token, after, rfl, reached, path, fails⟩ | closing | ⟨reached, closing⟩
  · obtain ⟨refused, room, frames, rfl⟩ := literal_of_fails fails noKind
    have member : token ∈ (lex source).tokens := by simp [split]
    have spelt := spelt_lex member
    rcases refused with ⟨kind, read⟩ | ⟨kind, read⟩
    · rcases readAtom_error read with
        ⟨negative, digits, rfl, numeral, long⟩ | rfl | ⟨rfl, -⟩ | rfl
      · exact ⟨_, rfl, row, values, segment, frames, token, after, split, derives, path, kind, negative,
          digits, numeral, rfl, long⟩
      · cases noKind
      · exact absurd (.inl ⟨kind, read⟩) spelt.ne_textEnd
      · cases noKind
    · rcases readString_error read with rfl | ⟨escape, rfl⟩
      · exact absurd (.inr ⟨kind, read⟩) spelt.ne_textEnd
      · cases noKind
  · obtain ⟨position, rfl⟩ := eq_openString_of_lex closing
    cases noKind
  · unfold Pending.endFault? at closing
    split at closing <;> cases closing <;> cases noKind

/-- With room for more than all tokens of a text, its reading fails with a fault of reading or at a
number of too many digits. -/
theorem kind_of_readSource {source : String} {room : Nat} {fault : Fault}
    (enough : (lex source).tokens.length < room)
    (failed : (readSource room source).fault = some fault) :
    fault.kind? = some .read ∨ ∃ count, fault = .digitCount count := by
  have reading := (readSource_readable room source).2 fault failed
  cases noKind : fault.kind? with
  | none =>
      obtain ⟨count, same, -⟩ := reachesLongNumeral_of_fault failed noKind
      exact .inr ⟨count, same⟩
  | some kind =>
      left
      rw [← noKind]
      unfold Fault.isReading at reading
      split at reading
      · obtain ⟨position, other⟩ := eq_openString_of_lex (readAll_nested enough failed)
        cases other
      · cases noKind
      · cases noKind
      · simpa using reading

/-- **Only faults of reading come out of reading a text**, with room for more than all its tokens: it
is read to its end, and its values are built from literals; or it is refused with a fault of reading;
or, exactly if the reader reaches a number of too many digits with nothing refused before it, with the
number of these digits.

So no string ends in a backslash that escapes nothing and no word is empty, and neither is ever too
short for what is read from it. A numeral has the value of its digits, unless these are too many or
the value is out of range. -/
theorem parse_refuses_properly (room : Nat) (source : String)
    (enough : (lex source).tokens.length < room) :
    ((∃ values, parse room source = .ok values ∧ DerivesEach (lex source).tokens values ∧
        ∀ value ∈ values, value.isReadable) ∨
      (∃ fault, parse room source = .error fault ∧ fault.kind? = some .read) ∨
      ∃ count, parse room source = .error (.digitCount count)) ∧
    (∀ count, parse room source = .error (.digitCount count) ↔
      ReachesLongNumeral (lex source).tokens count) ∧
    (∀ token ∈ (lex source).tokens,
      (token.kind = .string → ∃ body, StringBody body ∧
        token.text = String.ofList ('\x22' :: body ++ ['\x22'])) ∧
      (token.kind = .atom → token.text ≠ "") ∧ ¬ token.Refused .textEnd) ∧
    ∀ text negative digits, numeral? text.toList = some (negative, digits) →
      (∀ c ∈ digits, (Text.digitValue? c).isSome) ∧
        (readAtom text = .error (.digitCount digits.length) ∧ Text.maxDigits < digits.length ∨
          digits.length ≤ Text.maxDigits ∧
            (readAtom text = .ok (.int (Text.signedValue negative (Text.digitsValue digits))) ∨
              readAtom text = .error (.integerRange text))) := by
  refine ⟨?_, fun count => ?_, fun token member => ?_, fun _ _ _ => readAtom_numeral⟩
  · rcases read : readSource room source with ⟨values, _ | fault⟩
    · have accepted := (@readAll_ok_iff room (.ofLexed (lex source)) enough.le values).mp read
      refine .inl ⟨values, parse_eq_ok_iff.mpr read, accepted.2, ?_⟩
      have readable := (readSource_readable room source).1
      rwa [read] at readable
    · have failed : (readSource room source).fault = some fault := by rw [read]
      rcases kind_of_readSource enough failed with kind | ⟨count, rfl⟩
      · exact .inr (.inl ⟨fault, parse_eq_error_iff.mpr failed, kind⟩)
      · exact .inr (.inr ⟨count, parse_eq_error_iff.mpr failed⟩)
  · rw [parse_eq_error_iff]
    constructor
    · intro failed
      obtain ⟨_, same, reaches⟩ := reachesLongNumeral_of_fault failed rfl
      cases same
      exact reaches
    · exact fun reaches => reaches.readSource_fault enough.le
  · have spelt := spelt_lex member
    refine ⟨fun kind => ?_, fun kind empty => ?_, spelt.ne_textEnd⟩
    · cases spelt with
      | @string body isBody => exact ⟨body, isBody, rfl⟩
      | _ => cases kind
    · exact Scanner.ne_nil_of_spelt spelt (String.toList_eq_nil_iff.mpr empty)

/-- An open list whose first element is a number of one digit too many. -/
theorem parse_refuses_properly_openList :
    (lex (String.ofList ('(' :: List.replicate 4301 '7'))).tokens.length < 3 ∧
      parse 3 (String.ofList ('(' :: List.replicate 4301 '7')) = .error (.digitCount 4301) := by
  have inAtom : ∀ c ∈ List.replicate 4301 '7', Scanner.isDelimiter c = false := by
    intro c member
    obtain rfl := List.eq_of_mem_replicate member
    decide
  have nonempty : List.replicate 4301 '7' ≠ [] := List.cons_ne_nil _ _
  have split : lex (String.ofList ('(' :: List.replicate 4301 '7'))
      = ⟨[⟨.lparen, "("⟩, ⟨.atom, String.ofList (List.replicate 4301 '7')⟩], none⟩ := by
    rw [lex, String.toList_ofList]
    exact (Scanner.passes_lparen.append_emits (Scanner.emits_word nonempty inAtom)).lexChars_eq
  have enough : (lex (String.ofList ('(' :: List.replicate 4301 '7'))).tokens.length < 3 := by
    rw [split]
    exact Nat.lt_succ_self 2
  refine ⟨enough, ((parse_refuses_properly 3 _ enough).2.1 4301).mpr ?_⟩
  have numeral : ∀ count, numeral? (List.replicate (count + 1) '7')
      = some (false, List.replicate (count + 1) '7') := by
    intro count
    have digits : (List.replicate count '7').all Text.isDigit := by
      rw [List.all_replicate]
      split <;> decide
    rw [List.replicate_succ]
    simp [numeral?, Text.splitSign, digits, show Text.isDigit '7' by decide]
  rw [split]
  refine ⟨[], [], [⟨.lparen, "("⟩], [.list []], _, [], rfl, .nil, .list .top rfl .nil, rfl, false,
    List.replicate 4301 '7', ?_, List.length_replicate, by decide⟩
  rw [String.toList_ofList]
  exact numeral 4300

end SmallLisp
