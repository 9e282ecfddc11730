/-
**What was read once is read again.**

A text may spell its values in many ways: with a plus before a number or zeros in front of it, with
digits of several scripts, with line feeds inside strings, with quote marks, with `nil` for the empty
list, and with a list behind a dot. Whatever was read from it is a readable value, and the text with
which that value is written is read as the value again.

The values are nested no more deeply than the reader had room for, so it has room for their texts:

* `fits_resume`, `fits_step`: what the reader holds fits into the room that is left around it;
* `nesting_readSource`: so every form fits into the room that reading began with;
* `parse_canonical`: hence writing what was read gives a text that is read, and written, as itself.
-/

import SmallLisp.Proofs.Reader.RoundTrip

namespace SmallLisp

/-! ### How deeply the values are nested -/

theorem Value.nesting_chain {items : List Value} {tail : Value} {room : Nat} :
    (chain items tail).nesting ≤ room + 1 ↔
      (∀ item ∈ items, item.nesting ≤ room) ∧ tail.nesting ≤ room + 1 := by
  induction items with
  | nil => simp
  | cons item rest ih =>
      rw [chain_cons, nesting, Nat.max_le, ih, List.forall_mem_cons, Nat.add_le_add_iff_right,
        and_assoc]

theorem nesting_quoteForm {value : Value} {room : Nat} (fits : value.nesting ≤ room) :
    (quoteForm value).nesting ≤ room + 1 := by
  have positive := value.nesting_pos.trans fits
  refine Value.nesting_chain.mpr ⟨List.forall_mem_cons.mpr ⟨positive, ?_⟩, ?_⟩
  · exact List.forall_mem_singleton.mpr fits
  · exact positive.trans (Nat.le_succ room)

/-- A literal is not nested at all. -/
theorem Token.Denotes.nesting_eq {token : Token} {value : Value} (denotes : token.Denotes value) :
    value.nesting = 1 := by
  cases denotes with
  | atom _ read =>
      rcases readAtom_ok read with ⟨flag, rfl⟩ | rfl | ⟨number, rfl, -⟩ | ⟨rfl, -, -⟩ <;> rfl
  | string => rfl

/-- The values that the frames hold fit into the room around each of them; every frame takes up room
for one more expression. -/
def FramesFit : Nat → List Frame → Prop
  | _, [] => True
  | room, frame :: outer => (∀ item ∈ frame.items, item.nesting ≤ room) ∧ FramesFit (room + 1) outer

/-- All that the reader holds fits, if reading began with the room `total`. -/
def Pending.Fits (total : Nat) : Pending → Prop
  | .expr room frames => room + frames.length = total ∧ FramesFit room frames
  | .close room items tail frames => room + 1 + frames.length = total ∧
      (∀ item ∈ items, item.nesting ≤ room) ∧ tail.nesting ≤ room ∧ FramesFit (room + 1) frames

/-- What a move hands on fits. -/
def Move.Fits (total : Nat) : Move → Prop
  | .more pending => pending.Fits total
  | .done value => value.nesting ≤ total
  | .fail _ | .refuse _ => True

/-- **A complete expression fits into the frames** that take it. -/
theorem fits_resume {value : Value} {room total : Nat} {frames : List Frame}
    (fits : value.nesting ≤ room) (whole : room + frames.length = total)
    (held : FramesFit room frames) : (resume value room frames).Fits total := by
  induction frames generalizing value room with
  | nil => exact fits.trans (Nat.le_of_eq whole)
  | cons frame outer ih =>
      obtain ⟨items, others⟩ := held
      rw [List.length_cons] at whole
      cases frame with
      | quote => exact ih (nesting_quoteForm fits) (by omega) others
      | list taken => exact ⟨whole, List.forall_mem_cons.mpr ⟨fits, items⟩, others⟩
      | tail taken => exact ⟨by omega, items, fits, others⟩

/-- **A token that is accepted** keeps everything within its room. -/
theorem fits_step {pending : Pending} {token : Token} {move : Move} {total : Nat}
    (held : pending.Fits total) (takes : pending.Takes token move) : move.Fits total := by
  have chained : ∀ {items : List Value} {tail : Value} {room : Nat}, tail.nesting ≤ room + 1 →
      (∀ item ∈ items, item.nesting ≤ room) → (Value.chain items.reverse tail).nesting ≤ room + 1 :=
    fun last each => Value.nesting_chain.mpr ⟨fun item member => each item (List.mem_reverse.mp member), last⟩
  cases takes with
  | literal room frames literal =>
      refine fits_resume ?_ held.1 held.2
      rw [literal.nesting_eq]
      exact Nat.le_add_left 1 room
  | quote room frames kind | opening room frames kind =>
      obtain ⟨whole, others⟩ := held
      refine ⟨by simp only [List.length_cons]; omega, ?_, others⟩
      exact fun item member => absurd member List.not_mem_nil
  | closing room items frames kind =>
      obtain ⟨whole, each, others⟩ := held
      rw [List.length_cons] at whole
      exact fits_resume (chained (Nat.le_add_left 1 room) each) (by omega) others
  | dot room frames isDot nonempty => exact held
  | closingTail room items tail frames kind =>
      obtain ⟨whole, each, last, others⟩ := held
      exact fits_resume (chained (last.trans (Nat.le_succ room)) each) whole others

theorem fits_start (room : Nat) : (Pending.start room).Fits room := ⟨Nat.add_zero room, trivial⟩

/-- **Whatever tokens are read**, the values fit into the room that reading began with. -/
theorem nesting_readAllFrom {room : Nat} {ending : Option Fault} {pending : Pending}
    {forms : List Value} (tokens : List Token) (held : pending.Fits room)
    (complete : ∀ form ∈ forms, form.nesting ≤ room) :
    ∀ form ∈ (TokenStream.readAllFrom room ending pending forms tokens).1.forms,
      form.nesting ≤ room := by
  have stopped : ∀ form ∈ forms.reverse, form.nesting ≤ room := fun form member =>
    complete form (List.mem_reverse.mp member)
  induction tokens generalizing pending forms with
  | nil => exact stopped
  | cons token rest ih =>
      rw [TokenStream.readAllFrom_cons]
      cases moved : pending.step token with
      | more later => exact ih (fits_step held (Pending.takes_of_step moved rfl)) complete stopped
      | done value =>
          have fits : value.nesting ≤ room := fits_step held (Pending.takes_of_step moved rfl)
          have more : ∀ form ∈ value :: forms, form.nesting ≤ room :=
            List.forall_mem_cons.mpr ⟨fits, complete⟩
          exact ih (fits_start room) more fun form member => more form (List.mem_reverse.mp member)
      | fail | refuse => exact stopped

theorem nesting_readSource (room : Nat) (source : String) :
    ∀ form ∈ (readSource room source).forms, form.nesting ≤ room :=
  nesting_readAllFrom _ (fits_start room) fun _ member => absurd member List.not_mem_nil

/-! ### Writing and reading again -/

/-- **Writing what was read makes it canonical.** The forms of a text that is read to its end are
readable values. Each is written as a text that is read as exactly that value, so that it is written in
the same way again; and so are all of them in a row, whatever blank text stands between them. -/
theorem parse_canonical (room : Nat) (source : String) (values : List Value)
    (read : parse room source = .ok values) :
    (∀ value ∈ values, value.isReadable ∧ parse room value.render = .ok [value] ∧
      (parse room value.render).map (List.map Value.render) = .ok [value.render]) ∧
    ∀ text, Value.Spaced (values.map Value.render) text →
      parse room text = .ok values ∧
        (parse room text).map (List.map Value.render) = .ok (values.map Value.render) := by
  have whole := parse_eq_ok_iff.mp read
  have readable : ∀ value ∈ values, value.isReadable ∧ value.nesting ≤ room := by
    intro value member
    have form : value ∈ (readSource room source).forms := by rwa [whole]
    exact ⟨(readSource_readable room source).1 value form, nesting_readSource room source value form⟩
  constructor
  · intro value member
    have alone : Value.Spaced ([value].map Value.render) value.render := by
      have spaced := Value.Spaced.cons value.render "" nofun (absurd rfl) .nil
      simpa using spaced
    have again : parse room value.render = .ok [value] :=
      Value.parse_spaced room (List.forall_mem_singleton.mpr (readable value member)) alone
    refine ⟨(readable value member).1, again, ?_⟩
    rw [again]
    rfl
  · intro text spaced
    have again := Value.parse_spaced room readable spaced
    refine ⟨again, ?_⟩
    rw [again]
    rfl

/-- A quote mark, a plus and zeros before a digit of another script, a line feed in a string, `nil`,
and a list behind a dot. -/
theorem parse_canonical_spellings :
    parse 4 "'(+00\u0667 \"a\nb\" nil . (x)) ; end" =
      .ok [quoteForm (Value.ofList [.int 7, .str "a\nb", .nil, .sym "x"])] ∧
    parse 4 "(quote (7 \"a\\nb\" () x))" =
      .ok [quoteForm (Value.ofList [.int 7, .str "a\nb", .nil, .sym "x"])] := by
  have read : parse 4 "'(+00\u0667 \"a\nb\" nil . (x)) ; end" =
      .ok [quoteForm (Value.ofList [.int 7, .str "a\nb", .nil, .sym "x"])] := by decide +kernel
  have written : (quoteForm (Value.ofList [.int 7, .str "a\nb", .nil, .sym "x"])).render
      = "(quote (7 \"a\\nb\" () x))" := by decide +kernel
  have again := ((parse_canonical 4 _ _ read).1 _ List.mem_cons_self).2.1
  rw [written] at again
  exact ⟨read, again⟩

end SmallLisp
