/-
**Reading a text in pieces.**

A line feed ends whatever token or comment stands before it, unless it stands inside a string. So a
text that can be read to its end, a line feed and any other text are read as the two texts one after
the other:

* `Scanner.scan_behind`: the scanner does the same behind other text as at the start of a text,
  with all positions moved;
* `lex_lineFeed`: the tokens of both texts in a row, and the fault of the second;
* `readAllFrom_append`: the reader looks at no token behind a complete expression, and between two
  expressions it stands as at the start;
* `readSource_lineFeed`: the forms of both texts in a row, and the fault of the second; the line feed
  may also be the last character of the first text (`readSource_seam`).
-/

import SmallLisp.Proofs.Reader.Reads
import SmallLisp.Proofs.Reader.Scan

namespace SmallLisp

/-- The fault of a text that stands `offset` characters further on. -/
def Fault.moved (offset : Nat) : Fault → Fault
  | .openString position => .openString (offset + position)
  | fault => fault

/-! ### Splitting into tokens -/

namespace Scanner

/-- What the scanner is in the middle of, `offset` characters further on. -/
def Mode.behind (offset : Nat) : Mode → Mode
  | .string opened chars escaped => .string (offset + opened) chars escaped
  | mode => mode

/-- The scanner behind `offset` characters that gave the tokens `before`, newest first. -/
def behind (offset : Nat) (before : List Token) (scanner : Scanner) : Scanner :=
  ⟨offset + scanner.position, scanner.tokens ++ before, scanner.mode.behind offset⟩

theorem start_behind (offset position : Nat) (before tokens : List Token) (c : Char) :
    start (offset + position) (tokens ++ before) c = (start position tokens c).behind offset before := by
  unfold start
  repeat' split
  all_goals rfl

/-- **One character is read in the same way** behind other text. -/
theorem step_behind (offset : Nat) (before : List Token) (scanner : Scanner) (c : Char) :
    (scanner.behind offset before).step c = (scanner.step c).behind offset before := by
  obtain ⟨position, tokens, mode⟩ := scanner
  cases mode with
  | gap => exact start_behind offset position before tokens c
  | comment =>
      show _ = behind offset before ⟨position + 1, tokens, if c = '\n' then .gap else .comment⟩
      by_cases ends : c = '\n'
      · rw [if_pos ends]
        simp [step, behind, Mode.behind, ends, Nat.add_assoc]
      · rw [if_neg ends]
        simp [step, behind, Mode.behind, ends, Nat.add_assoc]
  | atom chars =>
      by_cases ends : isDelimiter c
      · have ended := start_behind offset position before (⟨.atom, textOf chars⟩ :: tokens) c
        simpa [step, behind, Mode.behind, ends] using ended
      · simp [step, behind, Mode.behind, ends, Nat.add_assoc]
  | string opened chars escaped =>
      show (if escaped then _ else if c = '\\' then _ else if c = '\x22' then _ else _)
        = behind offset before (if escaped then _ else if c = '\\' then _ else if c = '\x22' then _ else _)
      repeat' split
      all_goals simp [behind, Mode.behind, Nat.add_assoc]

/-- **Any text is scanned in the same way** behind other text. -/
theorem scan_behind (offset : Nat) (before : List Token) (scanner : Scanner) (chars : List Char) :
    (scanner.behind offset before).scan chars = (scanner.scan chars).behind offset before := by
  induction chars generalizing scanner with
  | nil => rfl
  | cons c rest ih => rw [scan_cons, scan_cons, step_behind, ih]

theorem finish_behind (offset : Nat) (before : List Token) (scanner : Scanner) :
    (scanner.behind offset before).finish
      = ⟨before.reverse ++ scanner.finish.tokens, scanner.finish.fault.map (.moved offset)⟩ := by
  obtain ⟨position, tokens, mode⟩ := scanner
  cases mode <;> simp [behind, Mode.behind, finish, Fault.moved]

theorem position_step (scanner : Scanner) (c : Char) :
    (scanner.step c).position = scanner.position + 1 := by
  have started : ∀ position tokens, (start position tokens c).position = position + 1 := by
    intro position tokens
    unfold start
    repeat' split
    all_goals rfl
  unfold step
  repeat' split
  all_goals first
    | exact started _ _
    | rfl

theorem position_scan (scanner : Scanner) (chars : List Char) :
    (scanner.scan chars).position = scanner.position + chars.length := by
  induction chars generalizing scanner with
  | nil => rfl
  | cons c rest ih =>
      rw [scan_cons, ih, position_step, List.length_cons]
      omega

/-- Outside of a string, a line feed leaves the scanner between two tokens. -/
theorem step_lineFeed {scanner : Scanner} (closed : scanner.finish.fault = none) :
    scanner.step '\n' = initial.behind (scanner.position + 1) scanner.finish.tokens.reverse := by
  have blank : Text.isBlank '\n' := by decide
  obtain ⟨position, tokens, mode⟩ := scanner
  cases mode with
  | gap | comment => simp [step, start, blank, finish, behind, Mode.behind, initial]
  | atom chars =>
      have ends : isDelimiter '\n' := isDelimiter_of_isBlank blank
      simp [step, start, blank, ends, finish, behind, Mode.behind, initial]
  | string => cases closed

end Scanner

/-- **The tokens of two texts with a line feed between them.** -/
theorem lex_lineFeed {first : String} (closed : (lex first).fault = none) (second : String) :
    lex (first ++ "\n" ++ second)
      = ⟨(lex first).tokens ++ (lex second).tokens,
          (lex second).fault.map (.moved (first.length + 1))⟩ := by
  have ended : (Scanner.initial.scan first.toList).position = first.length := by
    rw [Scanner.position_scan, String.length_toList]
    exact Nat.zero_add _
  have chars : (first ++ "\n" ++ second).toList = first.toList ++ '\n' :: second.toList := by simp
  have outside : (Scanner.initial.scan first.toList).finish.fault = none := closed
  rw [lex, chars, Scanner.lexChars_eq_scan, Scanner.scan_append, Scanner.scan_cons,
    Scanner.step_lineFeed outside, Scanner.scan_behind, Scanner.finish_behind, ended, List.reverse_reverse]
  rfl

theorem moved_of_refused {pending : Pending} {fault : Fault} {offset : Nat}
    (refused : fault.isRefusal ∨ pending.room ≤ 1 ∧ fault = .nestedTooDeeply) :
    fault.moved offset = fault := by
  cases fault with
  | openString position => rcases refused with refused | ⟨-, other⟩ <;> contradiction
  | _ => rfl

theorem moved_endFault? (pending : Pending) (offset : Nat) :
    pending.endFault?.map (.moved offset) = pending.endFault? := by
  unfold Pending.endFault?
  split <;> rfl

theorem endFault?_resume {value : Value} {room : Nat} {frames : List Frame} {later : Pending}
    (more : resume value room frames = .more later) : later.endFault? ≠ none := by
  induction frames generalizing value room with
  | nil => cases more
  | cons frame outer ih =>
      cases frame with
      | quote => exact ih more
      | list items | tail items =>
          cases more
          exact Option.some_ne_none _

/-- Inside an expression the input must not end. -/
theorem Pending.Takes.endFault? {pending later : Pending} {token : Token}
    (takes : pending.Takes token (.more later)) : later.endFault? ≠ none := by
  generalize more : Move.more later = move at takes
  cases takes with
  | literal | closing | closingTail => exact endFault?_resume more.symm
  | quote | opening | dot =>
      cases more
      exact Option.some_ne_none _

namespace TokenStream

theorem ending_eq_none {room : Nat} {ending : Option Fault} {pending : Pending} {forms : List Value}
    {tokens : List Token} (read : (readAllFrom room ending pending forms tokens).1.fault = none) :
    ending = none := by
  induction tokens generalizing pending forms with
  | nil =>
      cases ending with
      | none => rfl
      | some fault => cases read
  | cons token rest ih =>
      rw [readAllFrom_cons] at read
      cases moved : pending.step token with
      | more | done =>
          rw [moved] at read
          exact ih read
      | fail | refuse =>
          rw [moved] at read
          cases read

/-- **What follows a text that was read to its end** is read as from the start. -/
theorem readAllFrom_append {room : Nat} {pending : Pending} {forms all : List Value}
    {tokens : List Token} (more : List Token) (ending : Option Fault)
    (between : pending = .start room ∨ pending.endFault? ≠ none)
    (read : (readAllFrom room none pending forms tokens).1 = ⟨all, none⟩) :
    readAllFrom room ending pending forms (tokens ++ more)
      = readAllFrom room ending (.start room) all.reverse more := by
  induction tokens generalizing pending forms with
  | nil =>
      obtain ⟨same, complete⟩ := Reading.mk.inj read
      rcases between with rfl | unfinished
      · rw [← same, List.reverse_reverse]
        rfl
      · exact absurd complete unfinished
  | cons token rest ih =>
      rw [List.cons_append, readAllFrom_cons]
      rw [readAllFrom_cons] at read
      cases moved : pending.step token with
      | more later =>
          rw [moved] at read
          exact ih (.inr (Pending.takes_of_step moved rfl).endFault?) read
      | done value =>
          rw [moved] at read
          exact ih (.inl rfl) read
      | fail fault | refuse fault =>
          rw [moved] at read
          cases read

/-- The fault behind the last token matters only there. -/
theorem readAllFrom_moved (room offset : Nat) (ending : Option Fault) (pending : Pending)
    (forms : List Value) (tokens : List Token) :
    (readAllFrom room (ending.map (.moved offset)) pending forms tokens).1
      = ⟨(readAllFrom room ending pending forms tokens).1.forms,
          (readAllFrom room ending pending forms tokens).1.fault.map (.moved offset)⟩ := by
  induction tokens generalizing pending forms with
  | nil =>
      cases ending with
      | some fault => rfl
      | none => simp [readAllFrom, moved_endFault?]
  | cons token rest ih =>
      rw [readAllFrom_cons, readAllFrom_cons]
      cases moved : pending.step token with
      | more later => exact ih later forms
      | done value => exact ih (.start room) (value :: forms)
      | fail fault | refuse fault =>
          obtain ⟨cause, same | same, refused⟩ := Pending.stops_of_step moved rfl
          all_goals cases same
          all_goals simp [readAllAfter, moved_of_refused refused]

/-- Expressions that are complete before reading goes on come out in front. -/
theorem readAllFrom_forms (room : Nat) (ending : Option Fault) (pending : Pending)
    (forms : List Value) (tokens : List Token) :
    (readAllFrom room ending pending forms tokens).1
      = ⟨forms.reverse ++ (readAllFrom room ending pending [] tokens).1.forms,
          (readAllFrom room ending pending [] tokens).1.fault⟩ := by
  induction tokens generalizing pending forms with
  | nil => simp [readAllFrom]
  | cons token rest ih =>
      rw [readAllFrom_cons, readAllFrom_cons]
      cases pending.step token with
      | more later => exact ih later forms
      | done value =>
          show (readAllFrom room ending (.start room) (value :: forms) rest).1 = _
          rw [ih _ (value :: forms)]
          simp [readAllAfter, ih _ [value]]
      | fail fault | refuse fault => simp [readAllAfter]

end TokenStream

/-- **The forms of two texts with a line feed between them**, the first of which can be read to its
end: all forms in a row, and the fault of the second text. -/
theorem readSource_lineFeed {room : Nat} {first : String}
    (readable : (readSource room first).fault = none) (second : String) :
    readSource room (first ++ "\n" ++ second)
      = ⟨(readSource room first).forms ++ (readSource room second).forms,
          (readSource room second).fault.map (.moved (first.length + 1))⟩ := by
  have closed : (lex first).fault = none := TokenStream.ending_eq_none readable
  have read : (TokenStream.readAllFrom room none (.start room) [] (lex first).tokens).1
      = ⟨(readSource room first).forms, none⟩ := by
    have whole : readSource room first
        = (TokenStream.readAllFrom room (lex first).fault (.start room) [] (lex first).tokens).1 := rfl
    rw [closed] at whole
    rw [← whole, ← readable]
  have whole : readSource room (first ++ "\n" ++ second)
      = (TokenStream.readAllFrom room ((lex second).fault.map (.moved (first.length + 1)))
          (.start room) [] ((lex first).tokens ++ (lex second).tokens)).1 := by
    rw [readSource, lex_lineFeed closed]
    rfl
  rw [whole, TokenStream.readAllFrom_append _ _ (.inl rfl) read, TokenStream.readAllFrom_forms,
    TokenStream.readAllFrom_moved, List.reverse_reverse]
  rfl

end SmallLisp
