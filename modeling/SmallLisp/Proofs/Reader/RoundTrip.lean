/-
**Written values read back.**

The text of a readable value is scanned into tokens that can be written down from the value alone
(`emits_chars`), and the reader goes through these tokens to exactly that value (`reads_tokens`).
Both follow the spine of the value as writing does: `inList` says that a list is already open and
that the value is what follows an element of it.

* `render_readBack`: readable values, written with blank text between them, are read as
  themselves; a text with a function in it is refused.

A function is written with a word in front that no atom has. The scanner reaches that word with
everything before it complete, and the reader stops there (`reachesFunction_chars`), whatever the rest of
the text is: the names of parameters may be any text at all.
-/

import SmallLisp.Proofs.Reader.Reads
import SmallLisp.Proofs.Reader.Scan

namespace SmallLisp

open Scanner (Passes Emits StartsDelimited)

namespace Value

/-! ### The text of a value, character by character -/

/-- Whether a value is neither a pair nor the empty list. -/
def isLeaf : Value → Bool
  | .nil | .pair _ _ => false
  | _ => true

/-- Cases that follow the way values are written. -/
@[elab_as_elim]
theorem inductionText {motive : Value → Prop} (value : Value) (nil : motive .nil)
    (pair : ∀ first rest, motive first → motive rest → motive (.pair first rest))
    (leaf : ∀ value, value.isLeaf → motive value) : motive value := by
  induction value with
  | nil => exact nil
  | pair first rest firstHolds restHolds => exact pair first rest firstHolds restHolds
  | _ => exact leaf _ rfl

/-- The characters with which a value is written. -/
def chars (inList : Bool) : Value → List Char
  | .pair first rest => (if inList then ' ' else '(') :: (first.chars false ++ rest.chars true)
  | .nil => if inList then [')'] else ['(', ')']
  | value =>
    if inList then [' ', '.', ' '] ++ value.renderAtom.toList ++ [')'] else value.renderAtom.toList

theorem chars_leaf {value : Value} (leaf : value.isLeaf) (inList : Bool) :
    value.chars inList =
      if inList then [' ', '.', ' '] ++ value.renderAtom.toList ++ [')']
      else value.renderAtom.toList := by
  cases value with
  | nil | pair => cases leaf
  | _ => rfl

theorem toList_write (inList : Bool) (value : Value) (done : String) :
    (value.write inList done).toList = done.toList ++ value.chars inList := by
  induction value using inductionText generalizing inList done with
  | nil => cases inList <;> simp [write, chars]
  | pair first rest firstHolds restHolds =>
      rw [write, restHolds, firstHolds, chars]
      cases inList <;> simp
  | leaf value leaf =>
      have written : value.write inList done = if inList then done ++ " . " ++ value.renderAtom ++ ")"
          else done ++ value.renderAtom := by
        cases value with
        | nil | pair => cases leaf
        | _ => rfl
      rw [written, chars_leaf leaf]
      cases inList <;> simp

/-- **The characters of the canonical text.** -/
theorem toList_render (value : Value) : value.render.toList = value.chars false := by
  rw [render, toList_write]
  rfl

theorem startsDelimited_chars (value : Value) : StartsDelimited (value.chars true) := by
  induction value using inductionText with
  | nil => exact Scanner.startsDelimited_cons (by decide) _
  | pair first rest _ _ => exact Scanner.startsDelimited_cons (by decide) _
  | leaf value leaf =>
      rw [chars_leaf leaf]
      exact Scanner.startsDelimited_cons (by decide) _

/-! ### The tokens of a value -/

/-- The token of an atom other than the empty list. -/
def literalToken : Value → Token
  | .str text => ⟨.string, renderString text⟩
  | value => ⟨.atom, value.renderAtom⟩

/-- The tokens of a value. -/
def tokens (inList : Bool) : Value → List Token
  | .pair first rest =>
    (if inList then [] else [⟨.lparen, "("⟩]) ++ (first.tokens false ++ rest.tokens true)
  | .nil => if inList then [⟨.rparen, ")"⟩] else [⟨.lparen, "("⟩, ⟨.rparen, ")"⟩]
  | value =>
    if inList then [⟨.atom, "."⟩, value.literalToken, ⟨.rparen, ")"⟩] else [value.literalToken]

theorem tokens_leaf {value : Value} (leaf : value.isLeaf) (inList : Bool) :
    value.tokens inList =
      if inList then [⟨.atom, "."⟩, value.literalToken, ⟨.rparen, ")"⟩]
      else [value.literalToken] := by
  cases value with
  | nil | pair => cases leaf
  | _ => rfl

theorem isReadable_leaf {value : Value} (leaf : value.isLeaf) :
    value.isReadable = value.isLiteral := by
  cases value with
  | nil | pair => cases leaf
  | _ => rfl

/-- An atom other than the empty list is a string or is written as a word. -/
theorem isWord_or_str {value : Value} (leaf : value.isLeaf) (literal : value.isLiteral) :
    (value.isWord ∧ value.literalToken = ⟨.atom, value.renderAtom⟩) ∨ ∃ text, value = .str text := by
  cases value with
  | str text => exact .inr ⟨text, rfl⟩
  | bool | int | sym => exact .inl ⟨rfl, rfl⟩
  | nil => cases leaf
  | pair | builtin | lambda | void | foreign => cases literal

/-- The text of an atom is one token. -/
theorem emits_literal {value : Value} (leaf : value.isLeaf) (literal : value.isLiteral) :
    Emits value.renderAtom.toList [value.literalToken] := by
  rcases isWord_or_str leaf literal with ⟨word, token⟩ | ⟨text, rfl⟩
  · obtain ⟨nonempty, inAtom⟩ := renderAtom_chars literal word
    have emits := Scanner.emits_word nonempty inAtom
    rwa [String.ofList_toList, ← token] at emits
  · exact (Scanner.passes_renderString text).emits

theorem passes_dot : Passes [' ', '.', ' '] [⟨.atom, "."⟩] := fun _ _ => rfl

/-- **A written value is scanned into its tokens.** -/
theorem emits_chars {value : Value} (readable : value.isReadable) (inList : Bool) :
    Emits (value.chars inList) (value.tokens inList) := by
  induction value using inductionText generalizing inList with
  | nil =>
      cases inList with
      | true => exact Scanner.passes_rparen.emits
      | false => exact (Scanner.passes_lparen.append Scanner.passes_rparen).emits
  | pair first rest firstHolds restHolds =>
      rw [isReadable_pair, Bool.and_eq_true] at readable
      have inner := (firstHolds readable.1 false).append (restHolds readable.2 true)
        (startsDelimited_chars rest)
      cases inList with
      | true => exact Scanner.passes_space.append_emits inner
      | false => exact Scanner.passes_lparen.append_emits inner
  | leaf value leaf =>
      rw [isReadable_leaf leaf] at readable
      have literal := emits_literal leaf readable
      rw [chars_leaf leaf, tokens_leaf leaf]
      cases inList with
      | true =>
          exact ((passes_dot.append_emits literal).append_passes Scanner.passes_rparen
            (Scanner.startsDelimited_cons (by decide) _) (List.cons_ne_nil _ _)).emits
      | false => exact literal

/-! ### The reader on the tokens of a value -/

/-- The token of an atom is read as the atom. -/
theorem step_literalToken {value : Value} (leaf : value.isLeaf) (literal : value.isLiteral)
    (room : Nat) (frames : List Frame) :
    (Pending.expr (room + 1) frames).step value.literalToken = resume value (room + 1) frames := by
  rcases isWord_or_str leaf literal with ⟨word, token⟩ | ⟨text, rfl⟩
  · rw [token, Pending.step_atom (renderAtom_ne_dot literal word), readAtom_renderAtom literal word]
    rfl
  · rw [literalToken, Pending.step_string, readString_renderString]
    rfl

/-- **The reader goes from the tokens of a value to the value**: as an expression of its own, and
as what follows the elements of an open list. -/
theorem reads_tokens {value : Value} (readable : value.isReadable) :
    (∀ room frames, value.nesting ≤ room →
      Reads (.expr room frames) (value.tokens false) (resume value room frames)) ∧
    (∀ room item items frames, value.nesting ≤ room + 1 → 1 ≤ room →
      Reads (.expr room (.list (item :: items) :: frames)) (value.tokens true)
        (resume (chain (item :: items).reverse value) (room + 1) frames)) := by
  induction value using inductionText with
  | nil =>
      constructor
      · intro room frames enough
        obtain ⟨room, rfl⟩ := Nat.exists_eq_add_of_le' enough
        exact .next (Pending.step_lparen room frames) (.last (Pending.step_rparen_list room [] frames))
      · intro room item items frames _ _
        exact .last (Pending.step_rparen_list room (item :: items) frames)
  | pair first rest firstHolds restHolds =>
      rw [isReadable_pair, Bool.and_eq_true] at readable
      obtain ⟨readFirst, -⟩ := firstHolds readable.1
      obtain ⟨-, readRest⟩ := restHolds readable.2
      have positive := nesting_pos first
      constructor
      · intro room frames enough
        simp only [nesting] at enough
        obtain ⟨room, rfl⟩ : ∃ inner, room = inner + 1 := ⟨room - 1, by omega⟩
        refine .next (Pending.step_lparen room frames) ?_
        exact (readFirst room (.list [] :: frames) (by omega)).append
          (readRest room first [] frames (by omega) (by omega))
      · intro room item items frames enough inside
        simp only [nesting] at enough
        have chained := readRest room first (item :: items) frames (by omega) inside
        rw [List.reverse_cons, chain_append] at chained
        exact (readFirst room (.list (item :: items) :: frames) (by omega)).append chained
  | leaf value leaf =>
      rw [isReadable_leaf leaf] at readable
      constructor
      · intro room frames enough
        obtain ⟨room, rfl⟩ := Nat.exists_eq_add_of_le' ((nesting_pos value).trans enough)
        rw [tokens_leaf leaf]
        exact .last (step_literalToken leaf readable room frames)
      · intro room item items frames _ inside
        obtain ⟨room, rfl⟩ := Nat.exists_eq_add_of_le' inside
        rw [tokens_leaf leaf]
        exact .next (Pending.step_dot _ item items frames)
          (.next (step_literalToken leaf readable room _) (.last (Pending.step_rparen_close _ _ _ _)))

/-! ### Several values in a row -/

/-- A text made of pieces in order, each followed by blank text, which is not empty unless the
piece is the last. -/
inductive Spaced : List String → String → Prop
  | nil : Spaced [] ""
  | cons {pieces : List String} {text : String} (piece gap : String)
      (blank : ∀ c ∈ gap.toList, Text.isBlank c) (apart : pieces ≠ [] → gap ≠ "")
      (rest : Spaced pieces text) : Spaced (piece :: pieces) (piece ++ gap ++ text)

/-- Written values with blank text between them are scanned into their tokens. -/
theorem emits_spaced {values : List Value} (readable : ∀ value ∈ values, value.isReadable)
    {text : String} (spaced : Spaced (values.map render) text) :
    Emits text.toList (values.flatMap (tokens false)) := by
  induction values generalizing text with
  | nil =>
      cases spaced
      exact Scanner.passes_nil.emits
  | cons value others ih =>
      obtain ⟨here, later⟩ := List.forall_mem_cons.mp readable
      cases spaced with
      | @cons _ rest _ gap blank apart spacedRest =>
          have first := emits_chars here false
          have behind := (Scanner.passes_blanks blank).append_emits (ih later spacedRest)
          rw [String.toList_append, String.toList_append, toList_render, List.append_assoc]
          refine first.append behind ?_
          cases gapChars : gap.toList with
          | nil =>
              -- only the last value may stand without a gap, and then nothing is left
              have none : others = [] := by
                by_contra more
                exact apart (mt List.map_eq_nil_iff.mp more) (String.toList_eq_nil_iff.mp gapChars)
              subst none
              cases spacedRest
              exact fun c member => nomatch member
          | cons c blanks =>
              rw [List.cons_append]
              refine Scanner.startsDelimited_cons (Scanner.isDelimiter_of_isBlank (blank c ?_)) _
              rw [gapChars]
              exact List.mem_cons_self

/-- The reader turns the tokens of values in a row into these values. -/
theorem readAllFrom_tokens (room : Nat) {values : List Value}
    (readable : ∀ value ∈ values, value.isReadable ∧ value.nesting ≤ room) (forms : List Value) :
    TokenStream.readAllFrom room none (Pending.start room) forms (values.flatMap (tokens false))
      = (⟨forms.reverse ++ values, none⟩, ⟨none, [], none⟩) := by
  induction values generalizing forms with
  | nil =>
      rw [List.append_nil]
      rfl
  | cons value others ih =>
      obtain ⟨⟨here, shallow⟩, later⟩ := List.forall_mem_cons.mp readable
      have run := (reads_tokens here).1 room [] shallow
      rw [List.flatMap_cons, Pending.start, run.readAllFrom_eq]
      refine (ih later (value :: forms)).trans ?_
      rw [List.reverse_cons, List.append_assoc, List.singleton_append]

/-! ### Functions have no literal -/

/-- Whether a function stands somewhere in a value. -/
def holdsFunction : Value → Bool
  | .pair first rest => first.holdsFunction || rest.holdsFunction
  | value => value.isFunction

/-- Whether a value has a literal or is a function. -/
def isLiteralOrFunction (value : Value) : Bool := value.isLiteral || value.isFunction

/-- The words with which functions are written. -/
def functionWords : List String := ["#<builtin", "#<lambda"]

/-- Without functions, what is built from literals and functions is readable. -/
theorem isReadable_of_not_holdsFunction {value : Value}
    (built : value.isBuiltFrom isLiteralOrFunction) (none : value.holdsFunction = false) :
    value.isReadable := by
  induction value with
  | pair first rest firstHolds restHolds =>
      rw [isBuiltFrom, Bool.and_eq_true] at built
      rw [holdsFunction, Bool.or_eq_false_iff] at none
      rw [isReadable_pair, Bool.and_eq_true]
      exact ⟨firstHolds built.1 none.1, restHolds built.2 none.2⟩
  | builtin | lambda => cases none
  | _ => exact (Bool.or_false _).symm.trans built

theorem renderAtom_function {value : Value} (function : value.isFunction) :
    ∃ word ∈ functionWords, ∃ after, value.renderAtom.toList = word.toList ++ ' ' :: after := by
  cases value with
  | builtin tag =>
      refine ⟨"#<builtin", by decide, tag.name.toList ++ ['>'], ?_⟩
      simp [renderAtom]
  | lambda params body path =>
      refine ⟨"#<lambda", by decide, '(' :: (" ".intercalate params).toList ++ [')', '>'], ?_⟩
      simp [renderAtom]
  | _ => cases function

/-- The characters reach a function: those `before` it are scanned and read completely, and the
reader waits for an expression where its word stands. -/
def ReachesFunction (pending : Pending) (before chars : List Char) : Prop :=
  ∃ tokens room frames, Passes before tokens ∧
    Reads pending tokens (.more (.expr (room + 1) frames)) ∧
    ∃ word ∈ functionWords, ∃ after, chars = before ++ (word.toList ++ ' ' :: after)

section ReachesFunction

variable {pending later : Pending} {tokens : List Token} {before chars : List Char}

theorem ReachesFunction.behind (reached : ReachesFunction later before chars) {c : Char}
    (passes : Passes [c] tokens) (run : Reads pending tokens (.more later)) :
    ReachesFunction pending (c :: before) (c :: chars) := by
  obtain ⟨tokens, room, frames, inner, rest, word, isWord, after, rfl⟩ := reached
  exact ⟨_, room, frames, passes.append inner, run.append rest, word, isWord, after, rfl⟩

theorem ReachesFunction.append (reached : ReachesFunction pending before chars)
    (more : List Char) : ReachesFunction pending before (chars ++ more) := by
  obtain ⟨tokens, room, frames, inner, rest, word, isWord, after, rfl⟩ := reached
  refine ⟨tokens, room, frames, inner, rest, word, isWord, after ++ more, ?_⟩
  simp only [List.append_assoc, List.cons_append]

/-- A readable value may stand before what reaches a function. -/
theorem ReachesFunction.after (reached : ReachesFunction later (' ' :: before) chars)
    {first : List Char} (emits : Emits first tokens) (run : Reads pending tokens (.more later)) :
    ReachesFunction pending (first ++ ' ' :: before) (first ++ chars) := by
  obtain ⟨tokens, room, frames, inner, rest, word, isWord, after, rfl⟩ := reached
  refine ⟨_, room, frames, emits.append_passes inner
    (Scanner.startsDelimited_cons (by decide) _) (List.cons_ne_nil _ _), run.append rest, word,
    isWord, after, ?_⟩
  rw [List.append_assoc]

end ReachesFunction

/-- **A value with a function in it is read up to the function and no further**, as an expression
of its own and as what follows the elements of an open list. -/
theorem reachesFunction_chars {value : Value} (built : value.isBuiltFrom isLiteralOrFunction)
    (holds : value.holdsFunction) :
    (∀ room frames, value.nesting ≤ room →
      ∃ before, ReachesFunction (.expr room frames) before (value.chars false)) ∧
    (∀ room item items frames, value.nesting ≤ room + 1 → 1 ≤ room →
      ∃ before, ReachesFunction (.expr room (.list (item :: items) :: frames)) (' ' :: before)
        (value.chars true)) := by
  induction value using inductionText with
  | nil => cases holds
  | pair first rest firstHolds restHolds =>
      rw [isBuiltFrom, Bool.and_eq_true] at built
      have positive := nesting_pos first
      -- inside the list: the function stands in this element, or behind it
      have inside : ∀ room items frames, first.nesting ≤ room → rest.nesting ≤ room + 1 →
          ∃ before, ReachesFunction (.expr room (.list items :: frames)) before
            (first.chars false ++ rest.chars true) := by
        intro room items frames enoughFirst enoughRest
        by_cases here : first.holdsFunction
        · obtain ⟨before, reached⟩ :=
            (firstHolds built.1 here).1 room (.list items :: frames) enoughFirst
          exact ⟨before, reached.append _⟩
        · have behind : rest.holdsFunction := by simpa [holdsFunction, here] using holds
          have readable := isReadable_of_not_holdsFunction built.1 (eq_false_of_ne_true here)
          obtain ⟨before, reached⟩ :=
            (restHolds built.2 behind).2 room first items frames enoughRest (by omega)
          exact ⟨_, reached.after (emits_chars readable false)
            ((reads_tokens readable).1 room (.list items :: frames) enoughFirst)⟩
      constructor
      · intro room frames enough
        simp only [nesting] at enough
        obtain ⟨room, rfl⟩ : ∃ inner, room = inner + 1 := ⟨room - 1, by omega⟩
        obtain ⟨before, reached⟩ := inside room [] frames (by omega) (by omega)
        exact ⟨_, reached.behind Scanner.passes_lparen (.last (Pending.step_lparen room frames))⟩
      · intro room item items frames enough _
        simp only [nesting] at enough
        obtain ⟨before, reached⟩ := inside room (item :: items) frames (by omega) (by omega)
        exact ⟨_, reached.behind Scanner.passes_space (.nothing _)⟩
  | leaf value leaf =>
      have function : value.isFunction := by
        cases value with
        | nil | pair => cases leaf
        | _ => exact holds
      obtain ⟨word, isWord, after, written⟩ := renderAtom_function function
      constructor
      · intro room frames enough
        obtain ⟨room, rfl⟩ := Nat.exists_eq_add_of_le' ((nesting_pos value).trans enough)
        refine ⟨[], [], room, frames, Scanner.passes_nil, .nothing _, word, isWord, after, ?_⟩
        rw [chars_leaf leaf, written]
        rfl
      · intro room item items frames _ enough
        obtain ⟨room, rfl⟩ := Nat.exists_eq_add_of_le' enough
        refine ⟨['.', ' '], [⟨.atom, "."⟩], room, _, passes_dot,
          .last (Pending.step_dot _ item items frames), word, isWord, after ++ [')'], ?_⟩
        rw [chars_leaf leaf, written]
        simp

/-- The word of a function is refused. -/
theorem readAtom_functionWord {word : String} (isWord : word ∈ functionWords) :
    word ≠ "." ∧ (∀ c ∈ word.toList, Scanner.isDelimiter c = false) ∧ word.toList ≠ [] ∧
      readAtom word = .error (.invalidToken word) := by
  simp only [functionWords, List.mem_cons, List.not_mem_nil, or_false] at isWord
  rcases isWord with rfl | rfl <;>
    exact ⟨by decide, isDelimiter_of_any (by decide), by decide, by decide⟩

/-- **A text that reaches a function is refused at its word.** -/
theorem ReachesFunction.readAll_eq {room : Nat} {before chars : List Char}
    (reached : ReachesFunction (Pending.start room) before chars) :
    ∃ word, ((TokenStream.ofLexed (lexChars chars)).readAll room).1
      = ⟨[], some (.invalidToken word)⟩ := by
  obtain ⟨tokens, inner, frames, passes, run, word, isWord, after, rfl⟩ := reached
  obtain ⟨notDot, inAtom, nonempty, refused⟩ := readAtom_functionWord isWord
  -- the word and the blank behind it complete one more token
  have token := (Scanner.emits_word nonempty inAtom).append_passes Scanner.passes_space
    (Scanner.startsDelimited_cons (by decide) _) (List.cons_ne_nil _ _)
  rw [String.ofList_toList] at token
  have scanned := passes.append token
  have step : (Pending.expr (inner + 1) frames).step ⟨.atom, word⟩ = .fail (.invalidToken word) := by
    rw [Pending.step_atom notDot, refused]
    rfl
  have stop := run.append (.last step)
  obtain ⟨more, extended⟩ := Scanner.exists_tokens_scan
    (Scanner.scan .initial (before ++ (word.toList ++ [' ']))) after
  have lexed : (lexChars (before ++ (word.toList ++ ' ' :: after))).tokens
      = tokens ++ [⟨.atom, word⟩] ++ more := by
    rw [show before ++ (word.toList ++ ' ' :: after)
        = before ++ (word.toList ++ [' ']) ++ after by simp, Scanner.lexChars_eq_scan,
      Scanner.scan_append, extended, Scanner.initial, scanned]
    simp
  refine ⟨word, ?_⟩
  rw [TokenStream.readAll, TokenStream.pending_ofLexed, lexed, stop.readAllFrom_eq]
  rfl

/-- Readable values with blank text between them are read as exactly these values. -/
theorem parse_spaced (room : Nat) {values : List Value} {text : String}
    (readable : ∀ value ∈ values, value.isReadable ∧ value.nesting ≤ room)
    (spaced : Spaced (values.map render) text) : parse room text = .ok values := by
  have lexed := (emits_spaced (fun value member => (readable value member).1) spaced).lexChars_eq
  rw [parse, readSource, lex, lexed, TokenStream.readAll, TokenStream.pending_ofLexed]
  rw [show (TokenStream.ofLexed ⟨values.flatMap (tokens false), none⟩).fault = none from rfl,
    readAllFrom_tokens room readable]
  rfl

/-- **Readable values read back, and functions are refused.** Values with blank text between them
are read as exactly these values, of the same kinds; a value built from literals and at least one
function is not read at all. The reader needs as much room as the values are nested. -/
theorem render_readBack :
    (∀ (room : Nat) (values : List Value) (text : String),
      (∀ value ∈ values, value.isReadable ∧ value.nesting ≤ room) →
      Spaced (values.map render) text → parse room text = .ok values) ∧
    (∀ (room : Nat) (value : Value), value.isBuiltFrom isLiteralOrFunction →
      value.holdsFunction → value.nesting ≤ room →
      ∃ fault, parse room value.render = .error fault ∧ fault.kind? = some .read) := by
  constructor
  · exact fun room values text readable spaced => parse_spaced room readable spaced
  · intro room value built holds enough
    obtain ⟨before, reached⟩ := (reachesFunction_chars built holds).1 room [] enough
    obtain ⟨word, refused⟩ := reached.readAll_eq
    refine ⟨.invalidToken word, ?_, rfl⟩
    rw [parse, readSource, lex, toList_render, refused]

/-- A dotted list with a string in need of escapes and a boolean, an integer and a symbol behind
it, with a tab and a line feed between them; and a closure with a parenthesis among its parameters
at the end of a list. -/
theorem render_readBack_mixed :
    parse 3 "(\"a\\\"b\\n;\" (true) . -7)\t\nx-1" =
      .ok [.pair (.str "a\"b\n;") (.pair (ofList [.bool true]) (.int (-7))), .sym "x-1"] ∧
    ∃ fault, parse 2 (Value.pair (.int 1) (.lambda ["(", "\""] .nil .top)).render = .error fault ∧
      fault.kind? = some .read := by
  refine ⟨?_, render_readBack.2 2 _ (by decide) (by decide) (by decide)⟩
  have last : Spaced [(Value.sym "x-1").render] "x-1" :=
    .cons _ "" (List.all_eq_true.mp rfl) (fun more => absurd rfl more) .nil
  have both := Spaced.cons
    (Value.pair (.str "a\"b\n;") (.pair (ofList [.bool true]) (.int (-7)))).render "\t\n"
    (List.all_eq_true.mp (by decide)) (fun _ => by decide) last
  refine render_readBack.1 3 _ _ (by decide +kernel) ?_
  have written : "(\"a\\\"b\\n;\" (true) . -7)\t\nx-1" =
      (Value.pair (.str "a\"b\n;") (.pair (ofList [.bool true]) (.int (-7)))).render
        ++ "\t\n" ++ "x-1" := by decide +kernel
  rw [written]
  exact both

end Value

end SmallLisp
