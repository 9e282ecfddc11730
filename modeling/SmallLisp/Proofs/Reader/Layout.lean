/-
**Gaps and tokens.**

A `Layout` is a text cut up: a gap, and tokens with a gap behind each. A gap holds blanks and
comments, and two atoms never touch. Behind the layout stands nothing, a comment that the end of the
text cuts off, or a string that is never closed. The scanner finds exactly this:

* `exists_layout`: every text has a layout;
* `Layout.Sound.emits`: the scanner gives the tokens of a layout, whatever its gaps are;
* `lex_loses_nothing`: so the tokens of a text are those of its layout, the fault is the string that
  is never closed, and the tokens of a text give themselves again in any other layout.
-/

import Mathlib.Data.List.Chain
import SmallLisp.Proofs.Reader.Scan

namespace SmallLisp

/-! ### Layouts -/

/-- What may stand between two tokens: blanks, and comments with the line feeds that end them. -/
inductive IsGap : List Char → Prop
  | nil : IsGap []
  | blank {c : Char} {rest : List Char} (blank : Text.isBlank c) (more : IsGap rest) :
      IsGap (c :: rest)
  | comment {line rest : List Char} (oneLine : '\n' ∉ line) (more : IsGap rest) :
      IsGap (';' :: line ++ '\n' :: rest)

/-- A comment that no line feed ends. -/
def IsOpenComment (chars : List Char) : Prop := ∃ line, '\n' ∉ line ∧ chars = ';' :: line

/-- A double quote that no later one closes; one that a backslash escapes does not count. -/
def IsOpenString (chars : List Char) : Prop :=
  ∃ text, chars = '\x22' :: text ∧
    ¬ ∃ body behind, StringBody body ∧ text = body ++ '\x22' :: behind

/-- A token is spelt as its kind demands. -/
inductive Token.Spelt : Token → Prop
  | quote : Spelt ⟨.quote, "'"⟩
  | lparen : Spelt ⟨.lparen, "("⟩
  | rparen : Spelt ⟨.rparen, ")"⟩
  | string {body : List Char} (isBody : StringBody body) :
      Spelt ⟨.string, String.ofList ('\x22' :: body ++ ['\x22'])⟩
  | atom {word : List Char} (nonempty : word ≠ [])
      (inAtom : ∀ c ∈ word, Scanner.isDelimiter c = false) : Spelt ⟨.atom, String.ofList word⟩

/-- A text cut up: the gap before the first token, and each token with the gap behind it. -/
structure Layout where
  lead : List Char
  pieces : List (Token × List Char)

namespace Layout

/-- The tokens, in order. -/
def tokens (layout : Layout) : List Token := layout.pieces.map Prod.fst

/-- The gaps, in order: one more than there are tokens. -/
def gaps (layout : Layout) : List (List Char) := layout.lead :: layout.pieces.map Prod.snd

/-- The characters of a token and of the gap behind it. -/
def pieceChars (piece : Token × List Char) : List Char := piece.1.text.toList ++ piece.2

/-- The characters of the whole text. -/
def chars (layout : Layout) : List Char := layout.lead ++ layout.pieces.flatMap pieceChars

/-- Neighbouring atoms have a gap between them. -/
def Apart (piece next : Token × List Char) : Prop :=
  piece.1.kind = .atom → next.1.kind = .atom → piece.2 ≠ []

/-- The gaps are gaps, the tokens are spelt as their kinds demand, and no two atoms touch. -/
structure Sound (layout : Layout) : Prop where
  gaps : ∀ gap ∈ layout.gaps, IsGap gap
  spelt : ∀ token ∈ layout.tokens, token.Spelt
  apart : layout.pieces.IsChain Apart

end Layout

/-! ### The scanner on gaps and tokens -/

namespace Scanner

theorem scan_comment (position : Nat) (tokens : List Token) {line : List Char}
    (oneLine : '\n' ∉ line) :
    scan ⟨position, tokens, .comment⟩ line = ⟨position + line.length, tokens, .comment⟩ := by
  induction line generalizing position with
  | nil => rfl
  | cons c rest ih =>
      obtain ⟨other, later⟩ := List.ne_and_not_mem_of_not_mem_cons oneLine
      have next : step ⟨position, tokens, .comment⟩ c = ⟨position + 1, tokens, .comment⟩ := by
        simp [step, Ne.symm other]
      rw [scan_cons, next, ih _ later]
      simp [Nat.add_comm, Nat.add_left_comm]

/-- **A gap gives no token.** -/
theorem passes_gap {gap : List Char} (isGap : IsGap gap) : Passes gap [] := by
  induction isGap with
  | nil => exact passes_nil
  | blank blank _ ih => exact (passes_blank blank).append ih
  | @comment line rest oneLine _ ih =>
      intro position before
      have opened : step ⟨position, before, .gap⟩ ';' = ⟨position + 1, before, .comment⟩ := rfl
      have closed : ∀ place, step ⟨place, before, .comment⟩ '\n' = ⟨place + 1, before, .gap⟩ :=
        fun _ => rfl
      rw [List.cons_append, scan_cons, opened, scan_append, scan_comment _ _ oneLine, scan_cons,
        closed, ih]
      simp [Nat.add_comm, Nat.add_left_comm]

/-- A token other than an atom is complete without anything behind it. -/
theorem passes_spelt {token : Token} (spelt : token.Spelt) (notAtom : token.kind ≠ .atom) :
    Passes token.text.toList [token] := by
  cases spelt with
  | quote => exact fun _ _ => rfl
  | lparen => exact passes_lparen
  | rparen => exact passes_rparen
  | string isBody =>
      rw [String.toList_ofList]
      exact passes_string isBody
  | atom => exact absurd rfl notAtom

/-- **A token gives itself.** -/
theorem emits_spelt {token : Token} (spelt : token.Spelt) : Emits token.text.toList [token] := by
  cases spelt with
  | atom nonempty inAtom =>
      rw [String.toList_ofList]
      exact emits_word nonempty inAtom
  | quote => exact (passes_spelt .quote (by decide)).emits
  | lparen => exact (passes_spelt .lparen (by decide)).emits
  | rparen => exact (passes_spelt .rparen (by decide)).emits
  | string isBody => exact (passes_spelt (.string isBody) (by simp)).emits

/-! ### What may stand behind an atom -/

theorem startsDelimited_gap {gap : List Char} (isGap : IsGap gap) : StartsDelimited gap := by
  cases isGap with
  | nil => exact fun c member => nomatch member
  | blank blank _ => exact startsDelimited_cons (isDelimiter_of_isBlank blank) _
  | comment _ _ => exact startsDelimited_cons (by decide) _

/-- An atom is the only token that does not start with a delimiter. -/
theorem startsDelimited_spelt {token : Token} (spelt : token.Spelt) :
    StartsDelimited token.text.toList ↔ token.kind ≠ .atom := by
  cases spelt with
  | quote => exact iff_of_true (startsDelimited_cons (by decide) _) (by decide)
  | lparen => exact iff_of_true (startsDelimited_cons (by decide) _) (by decide)
  | rparen => exact iff_of_true (startsDelimited_cons (by decide) _) (by decide)
  | string =>
      rw [String.toList_ofList]
      exact iff_of_true (startsDelimited_cons (by decide) _) (by simp)
  | @atom word nonempty inAtom =>
      refine iff_of_false (fun delimited => ?_) fun other => other rfl
      obtain ⟨c, rest, rfl⟩ := List.exists_cons_of_ne_nil nonempty
      rw [String.toList_ofList] at delimited
      have here := inAtom c List.mem_cons_self
      rw [delimited c rfl] at here
      cases here

theorem ne_nil_of_spelt {token : Token} (spelt : token.Spelt) : token.text.toList ≠ [] := by
  cases spelt with
  | atom nonempty _ => rwa [String.toList_ofList]
  | string =>
      rw [String.toList_ofList]
      exact List.cons_ne_nil _ _
  | quote | lparen | rparen => decide

theorem startsDelimited_append {first second : List Char} (nonempty : first ≠ []) :
    StartsDelimited (first ++ second) ↔ StartsDelimited first := by
  obtain ⟨c, rest, rfl⟩ := List.exists_cons_of_ne_nil nonempty
  rfl

end Scanner

open Scanner (StartsDelimited Passes Emits)

namespace Layout

variable {layout : Layout}

theorem Sound.lead (sound : layout.Sound) : IsGap layout.lead := sound.gaps _ List.mem_cons_self

theorem Sound.gap (sound : layout.Sound) {piece : Token × List Char}
    (member : piece ∈ layout.pieces) : IsGap piece.2 :=
  sound.gaps _ (List.mem_cons_of_mem _ (List.mem_map_of_mem member))

/-- The pieces behind the first are a layout, the gap behind the first token in front. -/
theorem Sound.behind {lead gap : List Char} {token : Token} {pieces : List (Token × List Char)}
    (sound : Sound ⟨lead, (token, gap) :: pieces⟩) : Sound ⟨gap, pieces⟩ where
  gaps other member := sound.gaps other (List.mem_cons_of_mem _ member)
  spelt other member := sound.spelt other (List.mem_cons_of_mem _ member)
  apart := sound.apart.tail

theorem Sound.first {lead gap : List Char} {token : Token} {pieces : List (Token × List Char)}
    (sound : Sound ⟨lead, (token, gap) :: pieces⟩) : token.Spelt := sound.spelt _ List.mem_cons_self

/-- A layout starts with a delimiter unless its first token is an atom without a gap before it. -/
theorem Sound.startsDelimited (sound : layout.Sound)
    (apart : ∀ piece ∈ layout.pieces.head?, piece.1.kind = .atom → layout.lead ≠ []) :
    StartsDelimited layout.chars := by
  obtain ⟨lead, pieces⟩ := layout
  by_cases empty : lead = []
  · subst empty
    cases pieces with
    | nil => exact fun c member => nomatch member
    | cons piece rest =>
        have notAtom : piece.1.kind ≠ .atom := fun atom => apart piece rfl atom rfl
        show StartsDelimited (piece.1.text.toList ++ piece.2 ++ rest.flatMap pieceChars)
        rw [List.append_assoc, Scanner.startsDelimited_append (Scanner.ne_nil_of_spelt sound.first)]
        exact (Scanner.startsDelimited_spelt sound.first).mpr notAtom
  · exact (Scanner.startsDelimited_append empty).mpr (Scanner.startsDelimited_gap sound.lead)

/-- **The scanner gives the tokens of a layout.** -/
theorem Sound.emits (sound : layout.Sound) : Emits layout.chars layout.tokens := by
  obtain ⟨lead, pieces⟩ := layout
  induction pieces generalizing lead with
  | nil =>
      show Emits (lead ++ []) []
      rw [List.append_nil]
      exact (Scanner.passes_gap sound.lead).emits
  | cons piece rest ih =>
      obtain ⟨token, gap⟩ := piece
      have later : Emits (gap ++ rest.flatMap pieceChars) (rest.map Prod.fst) := ih gap sound.behind
      have whole : Emits (token.text.toList ++ (gap ++ rest.flatMap pieceChars))
          ([token] ++ rest.map Prod.fst) := by
        by_cases atom : token.kind = .atom
        · refine (Scanner.emits_spelt sound.first).append later (sound.behind.startsDelimited ?_)
          intro next member nextAtom
          obtain ⟨others, rfl⟩ := List.head?_eq_some_iff.mp member
          exact (List.isChain_cons_cons.mp sound.apart).1 atom nextAtom
        · exact (Scanner.passes_spelt sound.first atom).append_emits later
      show Emits (lead ++ (token.text.toList ++ gap ++ rest.flatMap pieceChars))
        ([] ++ ([token] ++ rest.map Prod.fst))
      rw [List.append_assoc]
      exact (Scanner.passes_gap sound.lead).append_emits whole

end Layout

/-! ### Behind the layout -/

/-- What follows the tokens is read as from between two tokens. -/
theorem Scanner.Emits.lexChars_append {chars rest : List Char} {tokens : List Token}
    (emits : Emits chars tokens) (delimited : StartsDelimited rest) :
    lexChars (chars ++ rest) = (scan ⟨chars.length, tokens.reverse, .gap⟩ rest).finish := by
  have settled : (initial.scan chars).settle = ⟨chars.length, tokens.reverse, .gap⟩ := by
    rw [initial, emits]
    simp
  rw [lexChars_eq_scan, scan_append]
  by_cases empty : rest = []
  · subst empty
    rw [scan_nil, scan_nil, ← finish_settle, settled]
  · rw [← scan_settle _ delimited empty, settled]

/-- A text behind a double quote has a closing quote, or is a body, perhaps with a backslash left. -/
theorem stringBody_or_open : ∀ text : List Char,
    (∃ body behind, StringBody body ∧ text = body ++ '\x22' :: behind) ∨
      StringBody text ∨ ∃ body, StringBody body ∧ text = body ++ ['\\']
  | [] => .inr (.inl .nil)
  | [c] => by
      by_cases backslash : c = '\\'
      · exact .inr (.inr ⟨[], .nil, by rw [backslash]; rfl⟩)
      by_cases mark : c = '\x22'
      · exact .inl ⟨[], [], .nil, by rw [mark]; rfl⟩
      · exact .inr (.inl (.plain backslash mark .nil))
  | c :: d :: rest => by
      by_cases backslash : c = '\\'
      · subst backslash
        rcases stringBody_or_open rest with ⟨body, behind, isBody, rfl⟩ | isBody | ⟨body, isBody, rfl⟩
        · exact .inl ⟨'\\' :: d :: body, behind, .escape d isBody, rfl⟩
        · exact .inr (.inl (.escape d isBody))
        · exact .inr (.inr ⟨'\\' :: d :: body, .escape d isBody, rfl⟩)
      by_cases mark : c = '\x22'
      · exact .inl ⟨[], d :: rest, .nil, by rw [mark]; rfl⟩
      · rcases stringBody_or_open (d :: rest) with
          ⟨body, behind, isBody, same⟩ | isBody | ⟨body, isBody, same⟩
        · exact .inl ⟨c :: body, behind, .plain backslash mark isBody, by rw [same]; rfl⟩
        · exact .inr (.inl (.plain backslash mark isBody))
        · exact .inr (.inr ⟨c :: body, .plain backslash mark isBody, by rw [same]; rfl⟩)

namespace Scanner

theorem finish_openComment (position : Nat) (tokens : List Token) {chars : List Char}
    (comment : IsOpenComment chars) :
    (scan ⟨position, tokens, .gap⟩ chars).finish = ⟨tokens.reverse, none⟩ := by
  obtain ⟨line, oneLine, rfl⟩ := comment
  have opened : step ⟨position, tokens, .gap⟩ ';' = ⟨position + 1, tokens, .comment⟩ := rfl
  rw [scan_cons, opened, scan_comment _ _ oneLine]
  rfl

theorem finish_openString (position : Nat) (tokens : List Token) {chars : List Char}
    (string : IsOpenString chars) :
    (scan ⟨position, tokens, .gap⟩ chars).finish
      = ⟨tokens.reverse, some (.openString position)⟩ := by
  obtain ⟨text, rfl, unclosed⟩ := string
  have opened : step ⟨position, tokens, .gap⟩ '\x22'
      = ⟨position + 1, tokens, .string position ['\x22'] false⟩ := rfl
  rw [scan_cons, opened]
  rcases stringBody_or_open text with closed | isBody | ⟨body, isBody, rfl⟩
  · exact absurd closed unclosed
  · rw [scan_body _ _ _ isBody]
    rfl
  · rw [scan_append, scan_body _ _ _ isBody]
    rfl

theorem startsDelimited_openComment {chars : List Char} (comment : IsOpenComment chars) :
    StartsDelimited chars := by
  obtain ⟨line, -, rfl⟩ := comment
  exact startsDelimited_cons (by decide) _

theorem startsDelimited_openString {chars : List Char} (string : IsOpenString chars) :
    StartsDelimited chars := by
  obtain ⟨text, rfl, -⟩ := string
  exact startsDelimited_cons (by decide) _

end Scanner

namespace Layout

variable {layout : Layout}

/-- **A layout that nothing or an open comment follows** is split into its tokens. -/
theorem Sound.lexChars_complete (sound : layout.Sound) {comment : List Char}
    (last : comment = [] ∨ IsOpenComment comment) :
    lexChars (layout.chars ++ comment) = ⟨layout.tokens, none⟩ := by
  rcases last with rfl | last
  · rw [List.append_nil]
    exact sound.emits.lexChars_eq
  · rw [sound.emits.lexChars_append (Scanner.startsDelimited_openComment last),
      Scanner.finish_openComment _ _ last, List.reverse_reverse]

/-- **A layout that an open string follows** is split into its tokens, and the string is refused. -/
theorem Sound.lexChars_openString (sound : layout.Sound) {rest : List Char} (last : IsOpenString rest) :
    lexChars (layout.chars ++ rest) = ⟨layout.tokens, some (.openString layout.chars.length)⟩ := by
  rw [sound.emits.lexChars_append (Scanner.startsDelimited_openString last),
    Scanner.finish_openString _ _ last, List.reverse_reverse]

end Layout

/-! ### Every text has a layout -/

/-- What may follow a layout up to the end of the text. -/
def IsRemainder (chars : List Char) : Prop :=
  (chars = [] ∨ IsOpenComment chars) ∨ IsOpenString chars

/-- The characters are a layout with something behind it. -/
def LaidOut (chars : List Char) : Prop :=
  ∃ (layout : Layout) (rest : List Char), layout.Sound ∧ IsRemainder rest ∧
    chars = layout.chars ++ rest

namespace Layout

/-- A layout with another gap in front. -/
theorem Sound.withLead {lead : List Char} {layout : Layout} (sound : layout.Sound)
    (isGap : IsGap lead) : Sound ⟨lead, layout.pieces⟩ where
  gaps := List.forall_mem_cons.mpr ⟨isGap, fun _ member => sound.gaps _ (List.mem_cons_of_mem _ member)⟩
  spelt := sound.spelt
  apart := sound.apart

/-- A layout with another token in front. -/
theorem Sound.withToken {token : Token} {layout : Layout} (sound : layout.Sound)
    (spelt : token.Spelt)
    (apart : token.kind = .atom → ∀ piece ∈ layout.pieces.head?, piece.1.kind = .atom →
      layout.lead ≠ []) : Sound ⟨[], (token, layout.lead) :: layout.pieces⟩ where
  gaps := List.forall_mem_cons.mpr ⟨.nil, sound.gaps⟩
  spelt := List.forall_mem_cons.mpr ⟨spelt, sound.spelt⟩
  apart := List.isChain_cons.mpr ⟨fun piece member atom => apart atom piece member, sound.apart⟩

end Layout

namespace LaidOut

variable {chars : List Char}

theorem of_remainder (last : IsRemainder chars) : LaidOut chars :=
  ⟨⟨[], []⟩, chars, ⟨List.forall_mem_singleton.mpr .nil, nofun, .nil⟩, last, rfl⟩

/-- More of a gap in front. -/
theorem widen (laidOut : LaidOut chars) (more : List Char)
    (isGap : ∀ gap, IsGap gap → IsGap (more ++ gap)) : LaidOut (more ++ chars) := by
  obtain ⟨layout, rest, sound, last, rfl⟩ := laidOut
  refine ⟨⟨more ++ layout.lead, layout.pieces⟩, rest, sound.withLead (isGap _ sound.lead), last, ?_⟩
  simp [Layout.chars]

/-- A token in front; behind an atom there must stand a delimiter. -/
theorem push (laidOut : LaidOut chars) {token : Token} (spelt : token.Spelt)
    (delimited : token.kind = .atom → StartsDelimited chars) :
    LaidOut (token.text.toList ++ chars) := by
  obtain ⟨layout, rest, sound, last, rfl⟩ := laidOut
  refine ⟨_, rest, sound.withToken spelt fun atom piece member nextAtom empty => ?_, last, ?_⟩
  · -- without a gap the text would go on with the first character of an atom
    obtain ⟨lead, pieces⟩ := layout
    obtain ⟨others, rfl⟩ := List.head?_eq_some_iff.mp member
    obtain rfl : lead = [] := empty
    have spelt : piece.1.Spelt := sound.first
    have starts := delimited atom
    simp only [Layout.chars, Layout.pieceChars, List.nil_append, List.flatMap_cons,
      List.append_assoc] at starts
    rw [Scanner.startsDelimited_append (Scanner.ne_nil_of_spelt spelt),
      Scanner.startsDelimited_spelt spelt] at starts
    exact starts nextAtom
  · simp [Layout.chars, Layout.pieceChars]

end LaidOut

/-- A word runs up to the next delimiter. -/
theorem exists_word {c : Char} (inAtom : Scanner.isDelimiter c = false) (rest : List Char) :
    ∃ word behind, rest = word ++ behind ∧ (∀ d ∈ c :: word, Scanner.isDelimiter d = false) ∧
      StartsDelimited behind := by
  refine ⟨rest.takeWhile fun d => !Scanner.isDelimiter d, rest.dropWhile fun d => !Scanner.isDelimiter d,
    List.takeWhile_append_dropWhile.symm, List.forall_mem_cons.mpr ⟨inAtom, fun d member => ?_⟩,
    fun d member => ?_⟩
  · have inside := List.all_eq_true.mp List.all_takeWhile d member
    simpa using inside
  · have stopped := List.head?_dropWhile_not (fun d => !Scanner.isDelimiter d) rest
    rw [member] at stopped
    simpa using stopped

/-- **Every text has a layout.** -/
theorem laidOut (chars : List Char) : LaidOut chars := by
  induction size : chars.length using Nat.strong_induction_on generalizing chars with
  | h size ih =>
      subst size
      have shorter : ∀ rest : List Char, rest.length < chars.length → LaidOut rest :=
        fun rest less => ih _ less rest rfl
      cases chars with
      | nil => exact .of_remainder (.inl (.inl rfl))
      | cons c rest =>
          have next := shorter rest (Nat.lt_succ_self _)
          by_cases blank : Text.isBlank c
          · exact next.widen [c] fun gap isGap => .blank blank isGap
          by_cases comment : c = ';'
          · subst comment
            by_cases ends : '\n' ∈ rest
            · obtain ⟨line, behind, rfl, oneLine⟩ := List.eq_append_cons_of_mem ends
              have later := shorter behind (by simp only [List.length_cons, List.length_append]; omega)
              have wider := later.widen (';' :: line ++ ['\n']) fun gap isGap => by
                simpa using IsGap.comment oneLine isGap
              simpa using wider
            · exact .of_remainder (.inl (.inr ⟨rest, ends, rfl⟩))
          by_cases quote : c = '\x27'
          · subst quote
            exact next.push .quote nofun
          by_cases opens : c = '('
          · subst opens
            exact next.push .lparen nofun
          by_cases closes : c = ')'
          · subst closes
            exact next.push .rparen nofun
          by_cases mark : c = '\x22'
          · subst mark
            by_cases closed : ∃ body behind, StringBody body ∧ rest = body ++ '\x22' :: behind
            · obtain ⟨body, behind, isBody, rfl⟩ := closed
              have later := shorter behind (by simp only [List.length_cons, List.length_append]; omega)
              simpa using later.push (.string isBody) nofun
            · exact .of_remainder (.inr ⟨rest, rfl, closed⟩)
          · have inAtom : Scanner.isDelimiter c = false := isDelimiter_eq_false_iff.mpr
              ⟨eq_false_of_ne_true blank, opens, closes, quote, mark, comment⟩
            obtain ⟨word, behind, rfl, allInAtom, delimited⟩ := exists_word inAtom rest
            have later := shorter behind (by simp only [List.length_cons, List.length_append]; omega)
            simpa using later.push (.atom (List.cons_ne_nil _ _) allInAtom) fun _ => delimited

/-! ### The tokens of a text -/

/-- The texts of tokens in order, with a gap between every two that is not empty. -/
inductive Separated : List Token → String → Prop
  | nil : Separated [] ""
  | one (token : Token) : Separated [token] token.text
  | cons {next : Token} {tokens : List Token} {text : String} (token : Token) (gap : String)
      (isGap : IsGap gap.toList) (nonempty : gap ≠ "") (rest : Separated (next :: tokens) text) :
      Separated (token :: next :: tokens) (token.text ++ gap ++ text)

/-- Separated tokens are a layout without a gap in front. -/
theorem Separated.exists_layout {tokens : List Token} {text : String}
    (separated : Separated tokens text) (spelt : ∀ token ∈ tokens, token.Spelt) :
    ∃ pieces, Layout.Sound ⟨[], pieces⟩ ∧ pieces.map Prod.fst = tokens ∧
      text.toList = pieces.flatMap Layout.pieceChars := by
  have empty : Layout.Sound ⟨[], []⟩ := ⟨List.forall_mem_singleton.mpr .nil, nofun, .nil⟩
  induction separated with
  | nil => exact ⟨[], empty, rfl, rfl⟩
  | one token =>
      have single := empty.withToken (spelt token List.mem_cons_self) fun _ _ none => nomatch none
      exact ⟨[(token, [])], single, rfl, by simp [Layout.pieceChars]⟩
  | cons token gap isGap nonempty _ ih =>
      obtain ⟨here, later⟩ := List.forall_mem_cons.mp spelt
      obtain ⟨pieces, sound, named, written⟩ := ih later
      refine ⟨(token, gap.toList) :: pieces, (sound.withLead isGap).withToken here ?_, ?_, ?_⟩
      · exact fun _ _ _ _ none => nonempty (String.toList_eq_nil_iff.mp none)
      · rw [List.map_cons, named]
      · simp [Layout.pieceChars, written]

/-- **Separated tokens are split into themselves.** -/
theorem Separated.lex_eq {tokens : List Token} {text : String} (separated : Separated tokens text)
    (spelt : ∀ token ∈ tokens, token.Spelt) : lex text = ⟨tokens, none⟩ := by
  obtain ⟨pieces, sound, named, written⟩ := separated.exists_layout spelt
  have split := sound.emits.lexChars_eq
  rwa [Layout.chars, List.nil_append, ← written, Layout.tokens, named] at split

/-- The two ways in which a text is laid out, and what the scanner makes of it. -/
theorem exists_layout (source : String) :
    ∃ (layout : Layout) (rest : List Char), layout.Sound ∧ source.toList = layout.chars ++ rest ∧
      ((rest = [] ∨ IsOpenComment rest) ∧ lex source = ⟨layout.tokens, none⟩ ∨
        IsOpenString rest ∧ lex source = ⟨layout.tokens, some (.openString layout.chars.length)⟩) := by
  obtain ⟨layout, rest, sound, last, written⟩ := laidOut source.toList
  refine ⟨layout, rest, sound, written, ?_⟩
  rw [lex, written]
  exact last.imp (fun last => ⟨last, sound.lexChars_complete last⟩)
    fun last => ⟨last, sound.lexChars_openString last⟩

/-- The tokens of every text are spelt as their kinds demand. -/
theorem spelt_lex {source : String} {token : Token} (member : token ∈ (lex source).tokens) :
    token.Spelt := by
  obtain ⟨layout, rest, sound, -, ⟨-, split⟩ | ⟨-, split⟩⟩ := exists_layout source
  · exact sound.spelt token (by rwa [split] at member)
  · exact sound.spelt token (by rwa [split] at member)

/-- **The scanner loses nothing, and its tokens give themselves again.** A text has the tokens
`tokens`

* and no fault if and only if it is a layout of them, perhaps with an open comment behind it;
* and a fault, one of reading, if and only if it is a layout of them with an open string behind it,
  and the fault names the place where that string starts.

The tokens of a text without a fault, with any gaps between them that are not empty, are split into
the same tokens. -/
theorem lex_loses_nothing (source : String) :
    (∀ tokens, lex source = ⟨tokens, none⟩ ↔
      ∃ (layout : Layout) (comment : List Char), layout.Sound ∧ layout.tokens = tokens ∧
        (comment = [] ∨ IsOpenComment comment) ∧ source.toList = layout.chars ++ comment) ∧
    (∀ tokens fault, lex source = ⟨tokens, some fault⟩ ↔
      ∃ (layout : Layout) (rest : List Char), layout.Sound ∧ layout.tokens = tokens ∧
        IsOpenString rest ∧ source.toList = layout.chars ++ rest ∧
        fault = .openString layout.chars.length) ∧
    (∀ fault ∈ (lex source).fault, fault.kind? = some .read) ∧
    ∀ text, (lex source).fault = none → Separated (lex source).tokens text →
      lex text = lex source := by
  obtain ⟨layout, rest, sound, written, found⟩ := exists_layout source
  refine ⟨fun tokens => ⟨fun split => ?_, ?_⟩, fun tokens fault => ⟨fun split => ?_, ?_⟩,
    fun fault member => ?_, fun text closed separated => ?_⟩
  · rcases found with ⟨last, same⟩ | ⟨-, same⟩
    · obtain ⟨rfl, -⟩ := Lexed.mk.inj (same.symm.trans split)
      exact ⟨layout, rest, sound, rfl, last, written⟩
    · cases same.symm.trans split
  · rintro ⟨other, comment, sound, rfl, last, written⟩
    rw [lex, written]
    exact sound.lexChars_complete last
  · rcases found with ⟨-, same⟩ | ⟨last, same⟩
    · cases same.symm.trans split
    · cases same.symm.trans split
      exact ⟨layout, rest, sound, rfl, last, written, rfl⟩
  · rintro ⟨other, string, sound, rfl, last, written, rfl⟩
    rw [lex, written]
    exact sound.lexChars_openString last
  · rcases found with ⟨-, same⟩ | ⟨-, same⟩
    · rw [same] at member
      cases member
    · rw [same] at member
      cases member
      rfl
  · rw [separated.lex_eq fun token => spelt_lex, ← closed]

/-- An atom that touches a string with an escaped quote, and a comment at the end of the text. -/
theorem lex_loses_nothing_touching :
    (lex "(f\"x\\\"\") ;end").fault = none ∧
      lex "(\nf;one\n\"x\\\"\"\t)" = lex "(f\"x\\\"\") ;end" := by
  have closed : (lex "(f\"x\\\"\") ;end").fault = none := by decide +kernel
  refine ⟨closed, (lex_loses_nothing "(f\"x\\\"\") ;end").2.2.2 _ closed ?_⟩
  have tokens : (lex "(f\"x\\\"\") ;end").tokens =
      [⟨.lparen, "("⟩, ⟨.atom, "f"⟩, ⟨.string, "\"x\\\"\""⟩, ⟨.rparen, ")"⟩] := by decide +kernel
  rw [tokens]
  have tab : IsGap "\t".toList := .blank (by decide) .nil
  have comment : IsGap ";one\n".toList := @IsGap.comment "one".toList [] (by decide) .nil
  have feed : IsGap "\n".toList := .blank (by decide) .nil
  exact .cons _ "\n" feed (by decide) (.cons _ ";one\n" comment (by decide)
    (.cons _ "\t" tab (by decide) (.one _)))

end SmallLisp
