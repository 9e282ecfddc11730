/-
**Literals and the values that have one.**

A value is *readable* if it is built by pairs from atoms that have a literal: the empty list,
booleans, strings, integers in range, and symbols whose name is read as that symbol.

* `readAtom_renderAtom`, `readString_renderString`: the text of an atom is read as the atom;
* `isLiteral_of_readAtom`: whatever an atom token is read as has a literal, so a symbol that was
  read once is read again;
* `isDelimiter_of_isSymbolChar`: no character of a symbol ends an atom, because the classes of
  letters and of blanks are disjoint tables.
-/

import Mathlib.Order.Lattice
import SmallLisp.Reader.Literal
import SmallLisp.Token.Lexer
import SmallLisp.Value.List
import SmallLisp.Value.Render

namespace SmallLisp

/-! ### Readable values -/

namespace Value

/-- Whether a value is an atom with a literal that is read as this atom. -/
def isLiteral : Value → Bool
  | .nil | .bool _ | .str _ => true
  | .int value => inIntRange value
  | .sym name =>
    match readAtom name with
    | .ok value => value = .sym name
    | .error _ => false
  | _ => false

/-- Whether a value is built by pairs from values of the class `leaf`. -/
def isBuiltFrom (leaf : Value → Bool) : Value → Bool
  | .pair first rest => first.isBuiltFrom leaf && rest.isBuiltFrom leaf
  | value => leaf value

/-- Whether a value is built from atoms that have a literal. -/
def isReadable (value : Value) : Bool := value.isBuiltFrom isLiteral

/-- How deeply expressions are nested in the text of a value; the elements of one list are nested
equally deep. -/
def nesting : Value → Nat
  | .pair first rest => max (first.nesting + 1) rest.nesting
  | _ => 1

theorem nesting_pos (value : Value) : 1 ≤ value.nesting := by
  induction value with
  | pair first rest _ ih => exact ih.trans (Nat.le_max_right _ _)
  | _ => exact le_rfl

@[simp] theorem isReadable_pair (first rest : Value) :
    (Value.pair first rest).isReadable = (first.isReadable && rest.isReadable) := rfl

theorem isReadable_chain {items : List Value} {tail : Value} :
    (chain items tail).isReadable ↔ (∀ item ∈ items, item.isReadable) ∧ tail.isReadable := by
  induction items with
  | nil => exact ⟨fun last => ⟨fun _ member => absurd member List.not_mem_nil, last⟩, And.right⟩
  | cons item rest ih =>
      rw [chain_cons, isReadable_pair, Bool.and_eq_true, ih, List.forall_mem_cons, and_assoc]

theorem isReadable_ofList {items : List Value} :
    (ofList items).isReadable ↔ ∀ item ∈ items, item.isReadable :=
  isReadable_chain.trans (and_iff_left rfl)

end Value

/-- The integers in range, as bounds. -/
theorem inIntRange_iff {value : Int} : inIntRange value ↔ minInt ≤ value ∧ value ≤ maxInt := by
  rw [inIntRange, Bool.and_eq_true, decide_eq_true_eq, decide_eq_true_eq]

/-! ### Digits -/

namespace Text

/-- The ten plain digits have their usual values. -/
theorem digitValue?_of_isDigit {c : Char} (digit : c.isDigit) :
    digitValue? c = some (c.toNat - '0'.toNat) := by
  obtain ⟨low, high⟩ := Char.isDigit_iff_toNat.mp digit
  have notBelow : ¬ c.toNat < 0x30 := Nat.not_lt.mpr low
  have inside : c.toNat < 0x30 + 10 := Nat.lt_succ_of_le high
  rw [digitValue?, zeroDigits, digitIn, if_neg notBelow, if_pos inside]
  rfl

theorem isDigit_of_isDigit {c : Char} (digit : c.isDigit) : isDigit c := by
  rw [isDigit, digitValue?_of_isDigit digit]
  rfl

/-- On plain digits, the value of a row is the one that core computes. -/
theorem digitsValue_eq_ofDigitChars (digits : List Char) (plain : ∀ c ∈ digits, c.isDigit) :
    digitsValue digits = Nat.ofDigitChars 10 digits 0 := by
  have general : ∀ total, digits.foldl (fun total c => total * 10 + (digitValue? c).getD 0) total
      = Nat.ofDigitChars 10 digits total := by
    induction digits with
    | nil => exact fun total => Nat.ofDigitChars_nil.symm
    | cons c rest ih =>
        intro total
        have value := digitValue?_of_isDigit (plain c List.mem_cons_self)
        rw [List.foldl_cons, ih fun d member => plain d (List.mem_cons_of_mem c member),
          Nat.ofDigitChars_cons, value, Option.getD_some, Nat.mul_comm]
  exact general 0

/-- **A written number has its own value.** -/
theorem digitsValue_toDigits (number : Nat) : digitsValue (Nat.toDigits 10 number) = number := by
  have plain : ∀ c ∈ Nat.toDigits 10 number, c.isDigit := fun c member =>
    Nat.isDigit_of_mem_toDigits (by decide) (by decide) member
  rw [digitsValue_eq_ofDigitChars _ plain, Nat.ofDigitChars_ten_toDigits]

/-- The digits of a number carry no sign. -/
theorem splitSign_toDigits (number : Nat) :
    splitSign (Nat.toDigits 10 number) = (false, Nat.toDigits 10 number) := by
  cases written : Nat.toDigits 10 number with
  | nil => rfl
  | cons c rest =>
      have digit : c.isDigit :=
        Nat.isDigit_of_mem_toDigits (b := 10) (by decide) (by decide) (written ▸ List.mem_cons_self)
      unfold splitSign
      split
      · simp_all
      · simp_all
      · rfl

/-- Two tables without a common code point have no common member. -/
theorem inRanges_disjoint {first second : List (Nat × Nat)}
    (apart : ∀ a ∈ first, ∀ b ∈ second, a.2 < b.1 ∨ b.2 < a.1) {code : Nat}
    (inFirst : inRanges code first) : inRanges code second = false := by
  have range_of : ∀ {ranges : List (Nat × Nat)}, inRanges code ranges →
      ∃ range ∈ ranges, range.1 ≤ code ∧ code ≤ range.2 := by
    intro ranges member
    induction ranges with
    | nil => cases member
    | cons range rest ih =>
        obtain ⟨low, high⟩ := range
        simp only [inRanges_cons, Bool.and_eq_true, Bool.or_eq_true, decide_eq_true_eq] at member
        rcases member with ⟨above, below | later⟩
        · exact ⟨(low, high), List.mem_cons_self, above, below⟩
        · obtain ⟨found, inRest, bounds⟩ := ih later
          exact ⟨found, List.mem_cons_of_mem _ inRest, bounds⟩
  by_contra inSecond
  obtain ⟨a, memberA, lowA, highA⟩ := range_of inFirst
  obtain ⟨b, memberB, lowB, highB⟩ := range_of (eq_true_of_ne_false inSecond)
  rcases apart a memberA b memberB with below | above <;> omega

end Text

/-! ### Characters that do not end an atom -/

open Scanner (isDelimiter)

theorem isDelimiter_eq_false_iff {c : Char} : isDelimiter c = false ↔
    Text.isBlank c = false ∧ c ≠ '(' ∧ c ≠ ')' ∧ c ≠ '\x27' ∧ c ≠ '\x22' ∧ c ≠ ';' := by
  simp only [isDelimiter, Bool.or_eq_false_iff, decide_eq_false_iff_not, and_assoc, ne_eq]

/-- The characters of a text that has no delimiter, to be checked by evaluation. -/
theorem isDelimiter_of_any {chars : List Char} (none : chars.any isDelimiter = false) :
    ∀ c ∈ chars, isDelimiter c = false :=
  fun c member => Bool.eq_false_iff.mpr (List.any_eq_false.mp none c member)

/-- A digit does not end an atom. -/
theorem isDelimiter_of_isDigit {c : Char} (digit : c.isDigit) : isDelimiter c = false := by
  have low : 0x30 ≤ c.toNat := (Char.isDigit_iff_toNat.mp digit).1
  have high : c.toNat ≤ 0x39 := (Char.isDigit_iff_toNat.mp digit).2
  have inDigits : Text.inRanges c.toNat [(0x30, 0x39)] := by simp [low, high]
  rw [isDelimiter_eq_false_iff]
  refine ⟨Text.inRanges_disjoint (by decide) inDigits, ?_, ?_, ?_, ?_, ?_⟩ <;>
  · rintro rfl
    exact absurd digit (by decide)

/-- **No character of a symbol ends an atom.** -/
theorem isDelimiter_of_isSymbolChar {c : Char} (inSymbol : isSymbolChar c) :
    isDelimiter c = false := by
  have notBlank : Text.isBlank c = false := by
    simp only [isSymbolChar, isSymbolStart, Bool.or_eq_true] at inSymbol
    rcases inSymbol with (letter | mark) | numeral
    · exact Text.inRanges_disjoint (by decide +kernel) letter
    · simp only [isSymbolMark, List.contains_iff_mem, List.mem_cons, List.not_mem_nil,
        or_false] at mark
      rcases mark with rfl | rfl | rfl | rfl | rfl | rfl | rfl | rfl | rfl | rfl <;> decide
    · exact Text.inRanges_disjoint (by decide +kernel) numeral
  rw [isDelimiter_eq_false_iff]
  refine ⟨notBlank, ?_, ?_, ?_, ?_, ?_⟩ <;>
  · rintro rfl
    exact absurd inSymbol (by decide +kernel)

/-! ### Atoms -/

/-- A numeral is read as a number, whatever it looks like otherwise. -/
theorem readAtom_of_numeral {token : String} {negative : Bool} {digits : List Char}
    (numeral : numeral? token.toList = some (negative, digits)) :
    readAtom token = readNumeral token negative digits := by
  have reserved : ∀ word : String, numeral? word.toList = none → token ≠ word := by
    rintro word refused rfl
    rw [refused] at numeral
    cases numeral
  rw [readAtom, if_neg (reserved "true" (by decide)), if_neg (reserved "false" (by decide)),
    if_neg (reserved "nil" (by decide)), numeral]

/-- The text of an integer is a numeral: a minus if it is negative, then its digits. -/
theorem numeral?_toString (value : Int) :
    numeral? (toString value).toList = some (decide (value < 0), Nat.toDigits 10 value.natAbs) := by
  have accepted : (!(Nat.toDigits 10 value.natAbs).isEmpty
      && (Nat.toDigits 10 value.natAbs).all Text.isDigit) = true := by
    rw [Bool.and_eq_true]
    constructor
    · simp [Nat.toDigits_ne_nil]
    · rw [List.all_eq_true]
      intro c member
      exact Text.isDigit_of_isDigit (Nat.isDigit_of_mem_toDigits (by decide) (by decide) member)
  rw [Int.toString_eq_repr, Int.repr_eq_if]
  by_cases sign : 0 ≤ value
  · have size : value.toNat = value.natAbs := by omega
    have notNegative : decide (value < 0) = false := decide_eq_false (by omega)
    rw [if_pos sign, Nat.toList_repr, size, numeral?, Text.splitSign_toDigits, notNegative]
    exact if_pos accepted
  · have size : (-value).toNat = value.natAbs := by omega
    have negative : decide (value < 0) = true := decide_eq_true (by omega)
    rw [if_neg sign, String.toList_append, Nat.toList_repr, size, negative]
    exact if_pos accepted

/-- **An integer in range reads back.** -/
theorem readAtom_toString {value : Int} (inRange : inIntRange value) :
    readAtom (toString value) = .ok (.int value) := by
  have bounds : value.natAbs < 10 ^ 19 := by
    obtain ⟨low, high⟩ := inIntRange_iff.mp inRange
    unfold minInt at low
    unfold maxInt at high
    omega
  have short : (Nat.toDigits 10 value.natAbs).length ≤ 19 :=
    (Nat.length_toDigits_le_iff (by decide) (by decide)).mpr bounds
  have few : ¬ Text.maxDigits < (Nat.toDigits 10 value.natAbs).length := by
    unfold Text.maxDigits
    omega
  have exact_value : Text.signedValue (decide (value < 0)) value.natAbs = value := by
    unfold Text.signedValue
    by_cases negative : value < 0
    · rw [decide_eq_true negative, if_pos rfl]
      omega
    · rw [decide_eq_false negative]
      simp only [Bool.false_eq_true, if_false]
      omega
  rw [readAtom_of_numeral (numeral?_toString value), readNumeral, if_neg few,
    Text.digitsValue_toDigits]
  simp only [exact_value]
  exact if_pos inRange

/-- The characters of an integer's text do not end an atom. -/
theorem isDelimiter_of_mem_toString {value : Int} {c : Char} (member : c ∈ (toString value).toList) :
    isDelimiter c = false := by
  have plain : ∀ {number : Nat}, c ∈ number.repr.toList → isDelimiter c = false := by
    intro number digit
    rw [Nat.toList_repr] at digit
    exact isDelimiter_of_isDigit (Nat.isDigit_of_mem_toDigits (by decide) (by decide) digit)
  rw [Int.toString_eq_repr, Int.repr_eq_if] at member
  split at member
  · exact plain member
  · rw [String.toList_append, List.mem_append] at member
    rcases member with minus | digit
    · obtain rfl : c = '-' := by simpa using minus
      decide
    · exact plain digit

/-- A number that is read lies in range. -/
theorem readNumeral_ok {token : String} {negative : Bool} {digits : List Char} {value : Value}
    (read : readNumeral token negative digits = .ok value) :
    ∃ number, value = .int number ∧ inIntRange number := by
  unfold readNumeral at read
  split at read
  · cases read
  · simp only at read
    split at read
    · rename_i inRange
      cases read
      exact ⟨_, rfl, inRange⟩
    · cases read

/-- A symbol is read as its own text, all of whose characters belong to symbols. -/
theorem readSymbol_ok {token : String} {value : Value} (read : readSymbol token = .ok value) :
    value = .sym token ∧ token ≠ "" ∧ ∀ c ∈ token.toList, isSymbolChar c := by
  unfold readSymbol at read
  split at read
  · cases read
  · rename_i first rest spelt
    split at read
    · rename_i accepted
      cases read
      rw [Bool.and_eq_true, List.all_eq_true] at accepted
      refine ⟨rfl, ?_, ?_⟩
      · rintro rfl
        cases spelt
      · intro c member
        rw [spelt, List.mem_cons] at member
        rcases member with rfl | later
        · rw [isSymbolChar, accepted.1, Bool.true_or]
        · exact accepted.2 c later
    · cases read

/-- What an atom token can be read as: a reserved word, a number in range, or itself as a symbol. -/
theorem readAtom_ok {token : String} {value : Value} (read : readAtom token = .ok value) :
    (∃ flag, value = .bool flag) ∨ value = .nil ∨ (∃ number, value = .int number ∧ inIntRange number)
      ∨ value = .sym token ∧ token ≠ "" ∧ ∀ c ∈ token.toList, isSymbolChar c := by
  unfold readAtom at read
  split at read
  · cases read
    exact .inl ⟨true, rfl⟩
  split at read
  · cases read
    exact .inl ⟨false, rfl⟩
  split at read
  · cases read
    exact .inr (.inl rfl)
  split at read
  · exact .inr (.inr (.inl (readNumeral_ok read)))
  · exact .inr (.inr (.inr (readSymbol_ok read)))

/-- What an atom token is refused for; only a numeral for its number of digits, and only the empty
text for being too short. -/
theorem readAtom_error {token : String} {fault : Fault} (read : readAtom token = .error fault) :
    (∃ negative digits, fault = .digitCount digits.length ∧
      numeral? token.toList = some (negative, digits) ∧ Text.maxDigits < digits.length)
      ∨ fault = .integerRange token ∨ (fault = .textEnd ∧ token = "")
      ∨ fault = .invalidToken token := by
  unfold readAtom at read
  split at read
  · cases read
  split at read
  · cases read
  split at read
  · cases read
  split at read
  · rename_i negative digits numeral
    unfold readNumeral at read
    split at read
    · rename_i long
      cases read
      exact .inl ⟨negative, digits, rfl, numeral, long⟩
    · dsimp only at read
      split at read
      · cases read
      · cases read
        exact .inr (.inl rfl)
  · unfold readSymbol at read
    split at read
    · rename_i empty
      cases read
      exact .inr (.inr (.inl ⟨rfl, String.toList_eq_nil_iff.mp empty⟩))
    · split at read
      · cases read
      · cases read
        exact .inr (.inr (.inr rfl))

theorem isLiteral_sym_iff {name : String} :
    (Value.sym name).isLiteral ↔ readAtom name = .ok (.sym name) := by
  cases read : readAtom name <;> simp [Value.isLiteral, read]

/-- **Whatever an atom token is read as has a literal.** -/
theorem isLiteral_of_readAtom {token : String} {value : Value} (read : readAtom token = .ok value) :
    value.isLiteral := by
  rcases readAtom_ok read with ⟨flag, rfl⟩ | rfl | ⟨number, rfl, inRange⟩ | ⟨rfl, -, -⟩
  · rfl
  · rfl
  · exact inRange
  · exact isLiteral_sym_iff.mpr read

/-! ### The text of an atom -/

namespace Value

/-- Whether a value is written as one word: a boolean, an integer or a symbol. -/
def isWord : Value → Bool
  | .bool _ | .int _ | .sym _ => true
  | _ => false

end Value

/-- **The word of an atom reads back.** -/
theorem readAtom_renderAtom {value : Value} (literal : value.isLiteral) (word : value.isWord) :
    readAtom value.renderAtom = .ok value := by
  cases value with
  | bool flag => cases flag <;> rfl
  | int number => exact readAtom_toString literal
  | sym name => exact isLiteral_sym_iff.mp literal
  | _ => cases word

/-- The word of an atom is not empty, and no character of it ends an atom. -/
theorem renderAtom_chars {value : Value} (literal : value.isLiteral) (word : value.isWord) :
    value.renderAtom.toList ≠ [] ∧ ∀ c ∈ value.renderAtom.toList, isDelimiter c = false := by
  cases value with
  | bool flag => cases flag <;> exact ⟨by decide, isDelimiter_of_any (by decide)⟩
  | int number =>
      refine ⟨fun empty => ?_, fun c member => isDelimiter_of_mem_toString member⟩
      have numeral := numeral?_toString number
      rw [show (toString number).toList = [] from empty] at numeral
      cases numeral
  | sym name =>
      rcases readAtom_ok (isLiteral_sym_iff.mp literal) with
        ⟨flag, impossible⟩ | impossible | ⟨number, impossible, -⟩ | ⟨-, nonempty, inSymbol⟩
      · cases impossible
      · cases impossible
      · cases impossible
      · exact ⟨fun empty => nonempty (String.toList_eq_nil_iff.mp empty),
          fun c member => isDelimiter_of_isSymbolChar (inSymbol c member)⟩
  | _ => cases word

/-- The word of an atom is never the dot of a list. -/
theorem renderAtom_ne_dot {value : Value} (literal : value.isLiteral) (word : value.isWord) :
    value.renderAtom ≠ "." := by
  intro dot
  have read := readAtom_renderAtom literal word
  rw [dot, show readAtom "." = .error (.invalidToken ".") by decide] at read
  cases read

/-! ### Strings -/

/-- What may stand between the quotes of a string: characters other than the backslash and the
double quote, and pairs of a backslash and any character. -/
inductive StringBody : List Char → Prop
  | nil : StringBody []
  | plain {c : Char} {rest : List Char} (notBackslash : c ≠ '\\') (notMark : c ≠ '\x22')
      (more : StringBody rest) : StringBody (c :: rest)
  | escape (c : Char) {rest : List Char} (more : StringBody rest) : StringBody ('\\' :: c :: rest)

/-- Written characters stand between quotes. -/
theorem stringBody_renderChars (text : List Char) : StringBody (text.flatMap Value.renderChar) := by
  induction text with
  | nil => exact .nil
  | cons c rest ih =>
      rw [List.flatMap_cons]
      unfold Value.renderChar
      split
      · exact .escape _ ih
      split
      · exact .escape _ ih
      split
      · exact .escape _ ih
      · rename_i notBackslash notMark _
        exact .plain notBackslash notMark ih

theorem unescapeFrom_plain (token : String) (done rest : List Char) {c : Char}
    (plain : c ≠ '\\') : unescapeFrom token done (c :: rest) = unescapeFrom token (c :: done) rest := by
  cases rest <;> simp only [unescapeFrom, if_neg plain]

/-- A written string body is read as the text. -/
theorem unescapeFrom_renderChars (token : String) (text done : List Char) :
    unescapeFrom token done (text.flatMap Value.renderChar) = .ok (done.reverse ++ text) := by
  induction text generalizing done with
  | nil => simp [unescapeFrom]
  | cons c rest ih =>
      rw [List.flatMap_cons]
      by_cases backslash : c = '\\'
      · subst backslash
        simp [Value.renderChar, unescapeFrom, unescape?, ih]
      by_cases mark : c = '\x22'
      · subst mark
        simp [Value.renderChar, unescapeFrom, unescape?, ih]
      by_cases newline : c = '\n'
      · subst newline
        simp [Value.renderChar, unescapeFrom, unescape?, ih]
      simp [Value.renderChar, backslash, mark, newline, unescapeFrom_plain, ih]

/-- **A string reads back.** -/
theorem readString_renderString (text : String) :
    readString (Value.renderString text) = .ok text := by
  have body : ((Value.renderString text).toList.drop 1).dropLast =
      text.toList.flatMap Value.renderChar := by
    rw [Value.renderString, String.toList_ofList, List.cons_append, List.drop_succ_cons,
      List.drop_zero, List.dropLast_concat]
  rw [readString, body, unescapeFrom_renderChars]
  simp [bind, Except.bind, pure, Except.pure]

theorem unescapeFrom_error {token : String} {done body : List Char} {fault : Fault}
    (read : unescapeFrom token done body = .error fault) :
    fault = .textEnd ∨ ∃ escape, fault = .unknownEscape escape token := by
  fun_induction unescapeFrom token done body with
  | case1 => cases read
  | case2 =>
      cases read
      exact .inl rfl
  | case3 done escape rest plain found ih => exact ih read
  | case4 done escape =>
      cases read
      exact .inr ⟨escape, rfl⟩
  | case5 done c rest plain ih => exact ih read

/-- What a string token is refused for. -/
theorem readString_error {token : String} {fault : Fault} (read : readString token = .error fault) :
    fault = .textEnd ∨ ∃ escape, fault = .unknownEscape escape token := by
  unfold readString at read
  cases body : unescapeFrom token [] (token.toList.drop 1).dropLast with
  | ok chars =>
      rw [body] at read
      cases read
  | error cause =>
      rw [body] at read
      cases read
      exact unescapeFrom_error body

end SmallLisp
