/-
**What the scanner makes of pieces of text.**

Reading a text is a fold of one-character steps, so a text cut into pieces is read piece by piece.
An atom is complete only when something after it ends it; `settle` ends it at once, and a delimiter
or the end of the text cannot tell the difference (`step_settle`, `finish_settle`).

* `Passes chars tokens`: from between two tokens, `chars` give `tokens` and end between tokens;
* `Emits chars tokens`: the same once an atom at the end is settled, so that only a delimiter or
  the end of the text may follow;
* `Emits.append`, `Emits.append_passes`, `Passes.append`: how pieces are put together;
* `emits_word`, `passes_string`: the two kinds of literals;
* `exists_tokens_scan`: reading on never takes back a token.
-/

import SmallLisp.Proofs.Reader.Literal

namespace SmallLisp.Scanner

/-- Reads characters one after the other. -/
def scan (scanner : Scanner) (chars : List Char) : Scanner := chars.foldl step scanner

theorem lexChars_eq_scan (chars : List Char) : lexChars chars = (initial.scan chars).finish := rfl

@[simp] theorem scan_nil (scanner : Scanner) : scanner.scan [] = scanner := rfl

@[simp] theorem scan_cons (scanner : Scanner) (c : Char) (chars : List Char) :
    scanner.scan (c :: chars) = (scanner.step c).scan chars := rfl

theorem scan_append (scanner : Scanner) (first second : List Char) :
    scanner.scan (first ++ second) = (scanner.scan first).scan second := List.foldl_append

/-! ### Settling an atom -/

/-- Ends the atom that is being read, if there is one. -/
def settle (scanner : Scanner) : Scanner :=
  match scanner.mode with
  | .atom chars => ⟨scanner.position, ⟨.atom, textOf chars⟩ :: scanner.tokens, .gap⟩
  | _ => scanner

/-- A delimiter ends an atom as settling does. -/
theorem step_settle (scanner : Scanner) {c : Char} (delimiter : isDelimiter c) :
    scanner.settle.step c = scanner.step c := by
  obtain ⟨position, tokens, mode⟩ := scanner
  cases mode with
  | atom chars => exact (if_pos delimiter).symm
  | _ => rfl

/-- The end of the text ends an atom as settling does. -/
theorem finish_settle (scanner : Scanner) : scanner.settle.finish = scanner.finish := by
  obtain ⟨position, tokens, mode⟩ := scanner
  cases mode <;> rfl

/-- Whether a piece of text can stand right behind an atom. -/
def StartsDelimited (chars : List Char) : Prop := ∀ c ∈ chars.head?, isDelimiter c

theorem startsDelimited_cons {c : Char} (delimiter : isDelimiter c) (chars : List Char) :
    StartsDelimited (c :: chars) := by
  intro first member
  rw [List.head?_cons, Option.mem_some_iff] at member
  exact member ▸ delimiter

/-- A piece that starts with a delimiter does not see whether the atom before it was settled. -/
theorem scan_settle (scanner : Scanner) {chars : List Char} (delimited : StartsDelimited chars)
    (nonempty : chars ≠ []) : scanner.settle.scan chars = scanner.scan chars := by
  cases chars with
  | nil => exact absurd rfl nonempty
  | cons c rest => rw [scan_cons, scan_cons, step_settle scanner (delimited c rfl)]

/-! ### Pieces of text and their tokens -/

/-- Between tokens, `chars` give `tokens` and end between tokens. -/
def Passes (chars : List Char) (tokens : List Token) : Prop :=
  ∀ position before, scan ⟨position, before, .gap⟩ chars
    = ⟨position + chars.length, tokens.reverse ++ before, .gap⟩

/-- Between tokens, `chars` give `tokens` once an atom at their end is settled. -/
def Emits (chars : List Char) (tokens : List Token) : Prop :=
  ∀ position before, (scan ⟨position, before, .gap⟩ chars).settle
    = ⟨position + chars.length, tokens.reverse ++ before, .gap⟩

theorem Passes.emits {chars : List Char} {tokens : List Token} (passes : Passes chars tokens) :
    Emits chars tokens := by
  intro position before
  rw [passes position before]
  rfl

theorem passes_nil : Passes [] [] := fun _ _ => rfl

section Append

variable {first second : List Char} {firstTokens secondTokens : List Token}

theorem Passes.append (passes : Passes first firstTokens) (next : Passes second secondTokens) :
    Passes (first ++ second) (firstTokens ++ secondTokens) := by
  intro position before
  rw [scan_append, passes, next, List.length_append, List.reverse_append, Nat.add_assoc,
    List.append_assoc]

theorem Passes.append_emits (passes : Passes first firstTokens)
    (next : Emits second secondTokens) :
    Emits (first ++ second) (firstTokens ++ secondTokens) := by
  intro position before
  rw [scan_append, passes, next, List.length_append, List.reverse_append, Nat.add_assoc,
    List.append_assoc]

/-- **A piece behind an atom** must start with a delimiter. -/
theorem Emits.append_passes (emits : Emits first firstTokens) (next : Passes second secondTokens)
    (delimited : StartsDelimited second) (nonempty : second ≠ []) :
    Passes (first ++ second) (firstTokens ++ secondTokens) := by
  intro position before
  rw [scan_append, ← scan_settle _ delimited nonempty, emits, next, List.length_append,
    List.reverse_append, Nat.add_assoc, List.append_assoc]

theorem Emits.append (emits : Emits first firstTokens) (next : Emits second secondTokens)
    (delimited : StartsDelimited second) :
    Emits (first ++ second) (firstTokens ++ secondTokens) := by
  by_cases empty : second = []
  · subst empty
    have none : secondTokens.reverse ++ [] = [] := (congrArg Scanner.tokens (next 0 [])).symm
    obtain rfl : secondTokens = [] := by simpa using none
    rwa [List.append_nil, List.append_nil]
  · intro position before
    rw [scan_append, ← scan_settle _ delimited empty, emits, next, List.length_append,
      List.reverse_append, Nat.add_assoc, List.append_assoc]

end Append

/-- **The tokens of a whole text.** -/
theorem Emits.lexChars_eq {chars : List Char} {tokens : List Token} (emits : Emits chars tokens) :
    lexChars chars = ⟨tokens, none⟩ := by
  rw [lexChars_eq_scan, ← finish_settle, initial, emits]
  simp [finish]

/-! ### Single characters -/

theorem passes_blank {c : Char} (blank : Text.isBlank c) : Passes [c] [] := by
  intro position before
  exact if_pos blank

theorem passes_blanks {gap : List Char} (blank : ∀ c ∈ gap, Text.isBlank c) : Passes gap [] := by
  induction gap with
  | nil => exact passes_nil
  | cons c rest ih =>
      exact (passes_blank (blank c List.mem_cons_self)).append
        (ih fun d member => blank d (List.mem_cons_of_mem c member))

theorem passes_space : Passes [' '] [] := passes_blank (by decide)

theorem passes_lparen : Passes ['('] [⟨.lparen, "("⟩] := fun _ _ => rfl

theorem passes_rparen : Passes [')'] [⟨.rparen, ")"⟩] := fun _ _ => rfl

theorem isDelimiter_of_isBlank {c : Char} (blank : Text.isBlank c) : isDelimiter c := by
  rw [isDelimiter, blank]
  rfl

/-! ### Literals -/

theorem start_of_not_isDelimiter (position : Nat) (tokens : List Token) {c : Char}
    (inAtom : isDelimiter c = false) : start position tokens c = ⟨position + 1, tokens, .atom [c]⟩ := by
  obtain ⟨notBlank, notOpen, notClose, notQuote, notMark, notComment⟩ :=
    isDelimiter_eq_false_iff.mp inAtom
  rw [start, if_neg (by rw [notBlank]; exact Bool.false_ne_true), if_neg notComment,
    if_neg notQuote, if_neg notOpen, if_neg notClose, if_neg notMark]

/-- Inside an atom, characters that do not end it are collected. -/
theorem scan_atom (position : Nat) (tokens : List Token) (chars done : List Char)
    (inAtom : ∀ c ∈ chars, isDelimiter c = false) :
    scan ⟨position, tokens, .atom done⟩ chars
      = ⟨position + chars.length, tokens, .atom (chars.reverse ++ done)⟩ := by
  induction chars generalizing position done with
  | nil => rfl
  | cons c rest ih =>
      have next : step ⟨position, tokens, .atom done⟩ c = ⟨position + 1, tokens, .atom (c :: done)⟩ := by
        simp only [step, inAtom c List.mem_cons_self, Bool.false_eq_true, if_false]
      rw [scan_cons, next, ih _ _ fun d member => inAtom d (List.mem_cons_of_mem c member)]
      simp [Nat.add_comm, Nat.add_left_comm]

/-- **A word is one atom.** -/
theorem emits_word {chars : List Char} (nonempty : chars ≠ [])
    (inAtom : ∀ c ∈ chars, isDelimiter c = false) :
    Emits chars [⟨.atom, String.ofList chars⟩] := by
  intro position before
  cases chars with
  | nil => exact absurd rfl nonempty
  | cons c rest =>
      have first : step ⟨position, before, .gap⟩ c = ⟨position + 1, before, .atom [c]⟩ :=
        start_of_not_isDelimiter position before (inAtom c List.mem_cons_self)
      rw [scan_cons, first, scan_atom _ _ _ _ fun d member => inAtom d (List.mem_cons_of_mem c member)]
      simp [settle, textOf, Nat.add_comm, Nat.add_left_comm]

/-- Inside a string, a body is collected and does not close it. -/
theorem scan_body (position opened : Nat) (tokens : List Token) {body : List Char}
    (isBody : StringBody body) (done : List Char) :
    scan ⟨position, tokens, .string opened done false⟩ body
      = ⟨position + body.length, tokens, .string opened (body.reverse ++ done) false⟩ := by
  induction isBody generalizing position done with
  | nil => rfl
  | @plain c rest notBackslash notMark _ ih =>
      have next : step ⟨position, tokens, .string opened done false⟩ c
          = ⟨position + 1, tokens, .string opened (c :: done) false⟩ := by
        simp [step, notBackslash, notMark]
      rw [scan_cons, next, ih]
      simp [Nat.add_comm, Nat.add_left_comm]
  | @escape c rest _ ih =>
      have next : step (step ⟨position, tokens, .string opened done false⟩ '\\') c
          = ⟨position + 1 + 1, tokens, .string opened (c :: '\\' :: done) false⟩ := rfl
      rw [scan_cons, scan_cons, next, ih]
      simp [Nat.add_comm, Nat.add_left_comm]

/-- **A body between quotes is one token.** -/
theorem passes_string {body : List Char} (isBody : StringBody body) :
    Passes ('\x22' :: body ++ ['\x22']) [⟨.string, String.ofList ('\x22' :: body ++ ['\x22'])⟩] := by
  intro position before
  have opened : step ⟨position, before, .gap⟩ '\x22'
      = ⟨position + 1, before, .string position ['\x22'] false⟩ := rfl
  have closed : ∀ place chars, scan ⟨place, before, .string position chars false⟩ ['\x22']
      = ⟨place + 1, ⟨.string, textOf ('\x22' :: chars)⟩ :: before, .gap⟩ := fun _ _ => rfl
  rw [List.cons_append, scan_cons, opened, scan_append, scan_body _ _ _ isBody, closed]
  have length : position + 1 + body.length + 1
      = position + ('\x22' :: (body ++ ['\x22'])).length := by
    rw [List.length_cons, List.length_append, List.length_singleton]
    omega
  rw [length]
  simp [textOf]

theorem passes_renderString (text : String) :
    Passes (Value.renderString text).toList [⟨.string, Value.renderString text⟩] := by
  have passes := passes_string (stringBody_renderChars text.toList)
  rwa [Value.renderString, String.toList_ofList]

/-! ### Tokens are never taken back -/

theorem exists_tokens_step (scanner : Scanner) (c : Char) :
    ∃ more, (scanner.step c).tokens = more ++ scanner.tokens := by
  have started : ∀ position tokens, ∃ more, (start position tokens c).tokens = more ++ tokens := by
    intro position tokens
    unfold start
    repeat' split
    all_goals first
      | exact ⟨[], rfl⟩
      | exact ⟨[_], rfl⟩
  unfold step
  split
  · exact started _ _
  · exact ⟨[], rfl⟩
  · rename_i position tokens chars
    split
    · obtain ⟨more, extended⟩ := started position (⟨.atom, textOf chars⟩ :: tokens)
      exact ⟨more ++ [⟨.atom, textOf chars⟩], by simpa using extended⟩
    · exact ⟨[], rfl⟩
  · repeat' split
    all_goals first
      | exact ⟨[], rfl⟩
      | exact ⟨[_], rfl⟩

/-- **Reading on never takes back a token.** -/
theorem exists_tokens_scan (scanner : Scanner) (chars : List Char) :
    ∃ more, (scanner.scan chars).finish.tokens = scanner.tokens.reverse ++ more := by
  induction chars generalizing scanner with
  | nil =>
      obtain ⟨position, tokens, mode⟩ := scanner
      cases mode with
      | atom chars => exact ⟨[⟨.atom, textOf chars⟩], List.reverse_cons⟩
      | _ => exact ⟨[], (List.append_nil _).symm⟩
  | cons c rest ih =>
      obtain ⟨more, extended⟩ := exists_tokens_step scanner c
      obtain ⟨later, finished⟩ := ih (scanner.step c)
      exact ⟨more.reverse ++ later, by rw [scan_cons, finished, extended]; simp⟩

end SmallLisp.Scanner
