/-
**Decoding.**

The decoder reads a character byte by byte. What it knows in the middle of one settles which bytes
complete it (`Completes`) and which lead on (`Passes`):

* `Utf8.completes_iff`: behind the first byte these are the rest of a sequence in the table;
* `Utf8.start?_eq_none_iff` and `Utf8.takes_iff`: a byte is refused if and only if no character starts
  with it, behind those that were read;
* `Utf8.Sequence.decodeFrom_eq`: so one character is decoded, and `Utf8.decodeFrom_encode`: any number;
* `Utf8.encode_or_flawed`: bytes are those of characters or flawed;
* `Utf8.decode_eq_ok_iff` and `Utf8.decode_eq_error_iff`: bytes are decoded to characters if and only if
  they are their bytes, and refused with a fault if and only if they are flawed in that way.
-/

import SmallLisp.Proofs.Text.Encoding

namespace SmallLisp.Text

namespace Utf8

/-! ### Characters that are read in part -/

namespace Unfinished

/-- The next byte may be this one. -/
def Takes (part : Unfinished) (byte : UInt8) : Prop :=
  part.low ≤ byte.toNat ∧ byte.toNat ≤ part.high

/-- A character with one more of its bytes read. -/
def after (part : Unfinished) (byte : UInt8) : Unfinished :=
  ⟨part.position, part.lead, part.length + 1, part.due - 1, part.bits * 0x40 + byte.toNat % 0x40, 0x80,
    0xBF⟩

/-- The bytes that are due, and the number of the character that they complete. -/
inductive Completes : Unfinished → List UInt8 → Nat → Prop
  | last {part : Unfinished} {byte : UInt8} (due : part.due = 1) (takes : part.Takes byte) :
      Completes part [byte] (part.bits * 0x40 + byte.toNat % 0x40)
  | next {part : Unfinished} {byte : UInt8} {behind : List UInt8} {number due : Nat}
      (more : part.due = due + 2) (takes : part.Takes byte)
      (rest : Completes (part.after byte) behind number) : Completes part (byte :: behind) number

/-- Bytes that lead on and do not complete the character. -/
inductive Passes : Unfinished → List UInt8 → Unfinished → Prop
  | nil (part : Unfinished) : Passes part [] part
  | cons {part later : Unfinished} {byte : UInt8} {taken : List UInt8} {due : Nat}
      (more : part.due = due + 2) (takes : part.Takes byte)
      (rest : Passes (part.after byte) taken later) : Passes part (byte :: taken) later

/-- Some byte is due, and there is one that may be next. -/
structure Sound (part : Unfinished) : Prop where
  due : 0 < part.due
  range : 0x80 ≤ part.low ∧ part.low ≤ part.high ∧ part.high ≤ 0xBF

theorem Sound.after {part : Unfinished} {due : Nat} (more : part.due = due + 2) (byte : UInt8) :
    (part.after byte).Sound :=
  ⟨by simp [Unfinished.after, more], by simp [Unfinished.after]⟩

theorem Passes.sound {part later : Unfinished} {taken : List UInt8} (passes : part.Passes taken later)
    (sound : part.Sound) : later.Sound := by
  induction passes with
  | nil => exact sound
  | cons more _ _ ih => exact ih (.after more _)

/-- Where an unfinished character starts, with which byte, and how many bytes of it were read. -/
theorem Passes.reported {part later : Unfinished} {taken : List UInt8}
    (passes : part.Passes taken later) :
    later.position = part.position ∧ later.lead = part.lead ∧
      later.length = part.length + taken.length := by
  induction passes with
  | nil => exact ⟨rfl, rfl, rfl⟩
  | cons _ _ _ ih =>
      obtain ⟨place, lead, length⟩ := ih
      refine ⟨place, lead, length.trans ?_⟩
      rw [List.length_cons]
      simp only [after]
      omega

theorem Completes.takes {part : Unfinished} {byte : UInt8} {behind : List UInt8} {number : Nat}
    (completes : part.Completes (byte :: behind) number) : part.Takes byte := by
  cases completes with
  | last _ takes | next _ takes => exact takes

theorem completes_cons_iff {part : Unfinished} {byte : UInt8} {behind : List UInt8} {number due : Nat}
    (more : part.due = due + 2) (takes : part.Takes byte) :
    part.Completes (byte :: behind) number ↔ (part.after byte).Completes behind number := by
  refine ⟨fun completes => ?_, .next more takes⟩
  cases completes with
  | last last => omega
  | next _ _ rest => exact rest

/-- What completes a character behind bytes that lead on. -/
theorem Passes.completes_iff {part later : Unfinished} {taken behind : List UInt8} {number : Nat}
    (passes : part.Passes taken later) :
    part.Completes (taken ++ behind) number ↔ later.Completes behind number := by
  induction passes with
  | nil => rfl
  | cons more takes _ ih => exact (completes_cons_iff more takes).trans ih

/-- A byte that may be next is the first of some that complete the character. -/
theorem exists_completes_cons {part : Unfinished} (sound : part.Sound) {byte : UInt8}
    (takes : part.Takes byte) : ∃ behind number, part.Completes (byte :: behind) number := by
  obtain ⟨due, some⟩ : ∃ due, part.due = due + 1 := ⟨part.due - 1, by have := sound.due; omega⟩
  induction due generalizing part byte with
  | zero => exact ⟨[], _, .last some takes⟩
  | succ due ih =>
      have usual : (part.after byte).Takes 0x80 := ⟨Nat.le_refl _, by simp [after]⟩
      obtain ⟨behind, number, rest⟩ := ih (.after some byte) usual (by simp [after, some])
      exact ⟨0x80 :: behind, number, .next some takes rest⟩

theorem exists_completes {part : Unfinished} (sound : part.Sound) :
    ∃ byte behind number, part.Completes (byte :: behind) number := by
  obtain ⟨low, le, high⟩ := sound.range
  have first : (UInt8.ofNat part.low).toNat = part.low :=
    UInt8.toNat_ofNat_of_lt' (show part.low < 0x100 by omega)
  exact ⟨UInt8.ofNat part.low, exists_completes_cons sound ⟨by omega, by omega⟩⟩

/-- **Bytes behind a character that is read in part** complete it, or lead on to their end, or lead on
to one that may not be next. -/
theorem passes_cases {part : Unfinished} (sound : part.Sound) (bytes : List UInt8) :
    (∃ behind number rest, part.Completes behind number ∧ bytes = behind ++ rest) ∨
      (∃ later, part.Passes bytes later) ∨
      ∃ taken next rest later, part.Passes taken later ∧ ¬later.Takes next ∧
        bytes = taken ++ next :: rest := by
  induction bytes generalizing part with
  | nil => exact .inr (.inl ⟨part, .nil part⟩)
  | cons byte bytes ih =>
      by_cases takes : part.Takes byte
      · by_cases last : part.due = 1
        · exact .inl ⟨[byte], _, bytes, .last last takes, rfl⟩
        · obtain ⟨due, more⟩ : ∃ due, part.due = due + 2 :=
            ⟨part.due - 2, by have := sound.due; omega⟩
          rcases ih (.after more byte) with ⟨behind, number, rest, completes, rfl⟩ | ⟨later, passes⟩ |
            ⟨taken, next, rest, later, passes, stray, rfl⟩
          · exact .inl ⟨byte :: behind, number, rest, .next more takes completes, rfl⟩
          · exact .inr (.inl ⟨later, .cons more takes passes⟩)
          · exact .inr (.inr ⟨byte :: taken, next, rest, later, .cons more takes passes, stray, rfl⟩)
      · exact .inr (.inr ⟨[], byte, bytes, part, .nil part, takes, rfl⟩)

/-- Bytes that are not all of those that complete a character lead on. -/
theorem exists_passes {part : Unfinished} {taken behind : List UInt8} {number : Nat}
    (completes : part.Completes (taken ++ behind) number) (incomplete : behind ≠ []) :
    ∃ later, part.Passes taken later := by
  induction taken generalizing part with
  | nil => exact ⟨part, .nil part⟩
  | cons byte taken ih =>
      rw [List.cons_append] at completes
      generalize whole : taken ++ behind = rest at completes
      cases completes with
      | last => simp_all
      | next more takes completes =>
          obtain ⟨later, passes⟩ := ih (whole ▸ completes)
          exact ⟨later, .cons more takes passes⟩

end Unfinished

/-! ### The first byte of a character -/

theorem start?_two {lead : UInt8} (position : Nat) (leads : 0xC2 ≤ lead.toNat ∧ lead.toNat < 0xE0) :
    start? position lead.toNat
      = some (.inr ⟨position, lead.toNat, 1, 1, lead.toNat % 0x20, 0x80, 0xBF⟩) := by
  rw [start?, if_neg (by omega), if_neg (by omega), if_pos (by omega)]

theorem start?_three {lead : UInt8} (position : Nat) (leads : 0xE0 ≤ lead.toNat ∧ lead.toNat < 0xF0) :
    start? position lead.toNat = some (.inr ⟨position, lead.toNat, 1, 2, lead.toNat % 0x10,
      if lead.toNat = 0xE0 then 0xA0 else 0x80, if lead.toNat = 0xED then 0x9F else 0xBF⟩) := by
  rw [start?, if_neg (by omega), if_neg (by omega), if_neg (by omega), if_pos (by omega)]

theorem start?_four {lead : UInt8} (position : Nat) (leads : 0xF0 ≤ lead.toNat ∧ lead.toNat < 0xF5) :
    start? position lead.toNat = some (.inr ⟨position, lead.toNat, 1, 3, lead.toNat % 0x08,
      if lead.toNat = 0xF0 then 0x90 else 0x80, if lead.toNat = 0xF4 then 0x8F else 0xBF⟩) := by
  rw [start?, if_neg (by omega), if_neg (by omega), if_neg (by omega), if_neg (by omega),
    if_pos (by omega)]

/-- The range of a second byte is narrower behind two of the lead bytes. -/
theorem second_iff {lead first last low high : Nat} {next : UInt8} (floor : 0x80 ≤ low)
    (ceiling : high ≤ 0xBF) :
    ((if lead = first then low else 0x80) ≤ next.toNat ∧
        next.toNat ≤ if lead = last then high else 0xBF) ↔
      Continues next ∧ (lead = first → low ≤ next.toNat) ∧ (lead = last → next.toNat ≤ high) := by
  unfold Continues
  split <;> split <;> omega

section Leads

variable {lead : UInt8}

theorem start?_single (position : Nat) (small : lead.toNat < 0x80) :
    start? position lead.toNat = some (.inl (Char.ofNat lead.toNat)) := if_pos small

theorem small_of_start? {position : Nat} {c : Char}
    (single : start? position lead.toNat = some (.inl c)) : lead.toNat < 0x80 := by
  unfold start? at single
  repeat' split at single
  all_goals first | assumption | cases single

/-- What a byte that is accepted can lead. -/
theorem start?_cases {position : Nat} (accepted : start? position lead.toNat ≠ none) :
    lead.toNat < 0x80 ∨ (0xC2 ≤ lead.toNat ∧ lead.toNat < 0xE0) ∨
      (0xE0 ≤ lead.toNat ∧ lead.toNat < 0xF0) ∨ (0xF0 ≤ lead.toNat ∧ lead.toNat < 0xF5) := by
  unfold start? at accepted
  repeat' split at accepted
  all_goals first | omega | exact absurd rfl accepted

/-- A sequence in the table is a single byte, or its first byte leads others. -/
theorem Sequence.lead_cases {behind : List UInt8} {number : Nat}
    (sequence : Sequence (lead :: behind) number) (position : Nat) :
    (behind = [] ∧ start? position lead.toNat = some (.inl (Char.ofNat number))) ∨
      ∃ part, start? position lead.toNat = some (.inr part) := by
  cases sequence with
  | one small => exact .inl ⟨rfl, start?_single position small⟩
  | two range => exact .inr ⟨_, start?_two position range⟩
  | three range => exact .inr ⟨_, start?_three position range⟩
  | four range => exact .inr ⟨_, start?_four position range⟩

section Leading

variable {position : Nat} {part : Unfinished}
  (leads : start? position lead.toNat = some (.inr part))
include leads

/-- What a byte that leads others says about them. -/
theorem start?_leads :
    ((0xC2 ≤ lead.toNat ∧ lead.toNat < 0xE0) ∧
        part = ⟨position, lead.toNat, 1, 1, lead.toNat % 0x20, 0x80, 0xBF⟩) ∨
      ((0xE0 ≤ lead.toNat ∧ lead.toNat < 0xF0) ∧
        part = ⟨position, lead.toNat, 1, 2, lead.toNat % 0x10,
          if lead.toNat = 0xE0 then 0xA0 else 0x80, if lead.toNat = 0xED then 0x9F else 0xBF⟩) ∨
      ((0xF0 ≤ lead.toNat ∧ lead.toNat < 0xF5) ∧
        part = ⟨position, lead.toNat, 1, 3, lead.toNat % 0x08,
          if lead.toNat = 0xF0 then 0x90 else 0x80, if lead.toNat = 0xF4 then 0x8F else 0xBF⟩) := by
  rcases start?_cases (leads ▸ Option.some_ne_none _) with range | range | range | range
  · rw [start?_single position range] at leads
    cases leads
  · rw [start?_two position range] at leads
    cases leads
    exact .inl ⟨range, rfl⟩
  · rw [start?_three position range] at leads
    cases leads
    exact .inr (.inl ⟨range, rfl⟩)
  · rw [start?_four position range] at leads
    cases leads
    exact .inr (.inr ⟨range, rfl⟩)

theorem sound_of_start? :
    part.Sound ∧ part.position = position ∧ part.lead = lead.toNat ∧ part.length = 1 := by
  rcases start?_leads leads with ⟨range, rfl⟩ | ⟨range, rfl⟩ | ⟨range, rfl⟩
  all_goals refine ⟨⟨Nat.succ_pos _, ?_⟩, rfl, rfl, rfl⟩
  · simp
  all_goals
    dsimp only
    split <;> split <;> omega

/-- **What completes a character behind its first byte** makes a sequence in the table with it. -/
theorem completes_iff {behind : List UInt8} {number : Nat} :
    part.Completes behind number ↔ Sequence (lead :: behind) number := by
  constructor
  · intro completes
    rcases start?_leads leads with ⟨range, rfl⟩ | ⟨range, rfl⟩ | ⟨range, rfl⟩
    · cases completes with
      | last _ ends => exact .two range ends rfl
      | next more => cases more
    · cases completes with
      | last due => cases due
      | next _ takes rest =>
          obtain ⟨follows, shortest, noSurrogate⟩ := (second_iff (by decide) (by decide)).mp takes
          cases rest with
          | last _ ends => exact .three range follows shortest noSurrogate ends rfl
          | next more => cases more
    · cases completes with
      | last due => cases due
      | next _ takes rest =>
          obtain ⟨follows, shortest, inRange⟩ := (second_iff (by decide) (by decide)).mp takes
          cases rest with
          | last due => cases due
          | next _ goesOn rest =>
              cases rest with
              | last _ ends => exact .four range follows shortest inRange goesOn ends rfl
              | next more => cases more
  · intro sequence
    cases sequence with
    | one small =>
        rw [start?_single position small] at leads
        cases leads
    | two range ends value =>
        rw [start?_two position range] at leads
        cases leads
        exact value ▸ .last rfl ends
    | three range follows shortest noSurrogate ends value =>
        rw [start?_three position range] at leads
        cases leads
        have second := (second_iff (by decide) (by decide)).mpr ⟨follows, shortest, noSurrogate⟩
        exact value ▸ .next rfl second (.last rfl ends)
    | four range follows shortest inRange goesOn ends value =>
        rw [start?_four position range] at leads
        cases leads
        have second := (second_iff (by decide) (by decide)).mpr ⟨follows, shortest, inRange⟩
        exact value ▸ .next rfl second (.next rfl goesOn (.last rfl ends))

/-- The bytes of a character that is read in part are open. -/
theorem opens_of_passes {later : Unfinished} {taken : List UInt8} (passes : part.Passes taken later) :
    Opens (lead :: taken) := by
  have sound := passes.sound (sound_of_start? leads).1
  obtain ⟨byte, behind, number, completes⟩ := Unfinished.exists_completes sound
  have sequence := (completes_iff leads).mp (passes.completes_iff.mpr completes)
  exact ⟨Char.ofNat number, byte :: behind, List.cons_ne_nil _ _, sequence.utf8EncodeChar_eq⟩

/-- **A byte may be next** if and only if some character starts with it behind the others. -/
theorem takes_iff {later : Unfinished} {taken : List UInt8} (passes : part.Passes taken later)
    {next : UInt8} : later.Takes next ↔ Starts (lead :: taken ++ [next]) := by
  have whole : ∀ behind, lead :: taken ++ [next] ++ behind = lead :: (taken ++ next :: behind) := by
    simp
  constructor
  · intro takes
    have sound := passes.sound (sound_of_start? leads).1
    obtain ⟨behind, number, completes⟩ := Unfinished.exists_completes_cons sound takes
    have sequence := (completes_iff leads).mp (passes.completes_iff.mpr completes)
    rw [← whole] at sequence
    exact sequence.starts
  · intro starts
    obtain ⟨behind, number, sequence⟩ := starts.exists_sequence
    rw [whole] at sequence
    exact (passes.completes_iff.mp ((completes_iff leads).mpr sequence)).takes

end Leading

/-- **A byte is refused at the start** if and only if no character starts with it. -/
theorem start?_eq_none_iff {position : Nat} : start? position lead.toNat = none ↔ ¬Starts [lead] := by
  constructor
  · intro refused starts
    obtain ⟨behind, number, sequence⟩ := starts.exists_sequence
    rcases sequence.lead_cases position with ⟨-, accepted⟩ | ⟨part, accepted⟩
    all_goals
      rw [accepted] at refused
      cases refused
  · intro stray
    refine Classical.byContradiction fun accepted => stray ?_
    rcases start?_cases accepted with small | range | range | range
    · exact (Sequence.one small).starts
    · exact (opens_of_passes (start?_two position range) (.nil _)).starts
    · exact (opens_of_passes (start?_three position range) (.nil _)).starts
    · exact (opens_of_passes (start?_four position range) (.nil _)).starts

/-- Bytes that are open lead the decoder into a character. -/
theorem Opens.exists_passes {taken : List UInt8} (opens : Opens (lead :: taken)) (position : Nat) :
    ∃ part later, start? position lead.toNat = some (.inr part) ∧ part.Passes taken later := by
  obtain ⟨c, behind, incomplete, same⟩ := opens
  have sequence := sequence_utf8EncodeChar c
  rw [same, List.cons_append] at sequence
  rcases sequence.lead_cases position with ⟨complete, -⟩ | ⟨part, leads⟩
  · exact absurd (List.append_eq_nil_iff.mp complete).2 incomplete
  · obtain ⟨later, passes⟩ := Unfinished.exists_passes ((completes_iff leads).mpr sequence) incomplete
    exact ⟨part, later, leads, passes⟩

end Leads

/-! ### The decoder -/

section Decoder

variable {position : Nat} {done : List Char} {rest : List UInt8}

theorem decodeFrom_lead {lead : UInt8} {part : Unfinished}
    (leads : start? position lead.toNat = some (.inr part)) :
    decodeFrom position done none (lead :: rest)
      = decodeFrom (position + 1) done (some part) rest := by
  simp only [decodeFrom, leads]

theorem decodeFrom_next {part : Unfinished} {byte : UInt8} {due : Nat} (more : part.due = due + 2)
    (takes : part.Takes byte) :
    decodeFrom position done (some part) (byte :: rest)
      = decodeFrom (position + 1) done (some (part.after byte)) rest := by
  obtain ⟨low, high⟩ := takes
  simp [decodeFrom, low, high, more, Unfinished.after]

theorem decodeFrom_last {part : Unfinished} {byte : UInt8} (last : part.due = 1)
    (takes : part.Takes byte) :
    decodeFrom position done (some part) (byte :: rest)
      = decodeFrom (position + 1) (Char.ofNat (part.bits * 0x40 + byte.toNat % 0x40) :: done) none
          rest := by
  obtain ⟨low, high⟩ := takes
  simp [decodeFrom, low, high, last]

/-- Bytes that complete a character are decoded to it. -/
theorem Unfinished.Completes.decodeFrom_eq {part : Unfinished} {behind : List UInt8} {number : Nat}
    (completes : part.Completes behind number) :
    decodeFrom position done (some part) (behind ++ rest)
      = decodeFrom (position + behind.length) (Char.ofNat number :: done) none rest := by
  induction completes generalizing position with
  | last due takes => exact decodeFrom_last due takes
  | next more takes _ ih =>
      rw [List.cons_append, decodeFrom_next more takes, ih, List.length_cons, Nat.add_assoc,
        Nat.add_comm 1]

/-- Bytes that lead on leave the character unfinished. -/
theorem Unfinished.Passes.decodeFrom_eq {part later : Unfinished} {taken : List UInt8}
    (passes : part.Passes taken later) :
    decodeFrom position done (some part) (taken ++ rest)
      = decodeFrom (position + taken.length) done (some later) rest := by
  induction passes generalizing position with
  | nil => rfl
  | cons more takes _ ih =>
      rw [List.cons_append, decodeFrom_next more takes, ih, List.length_cons, Nat.add_assoc,
        Nat.add_comm 1]

/-- **A sequence in the table is decoded** to the character of its number. -/
theorem Sequence.decodeFrom_eq {bytes : List UInt8} {number : Nat} (sequence : Sequence bytes number) :
    decodeFrom position done none (bytes ++ rest)
      = decodeFrom (position + bytes.length) (Char.ofNat number :: done) none rest := by
  obtain ⟨lead, behind, rfl⟩ : ∃ lead behind, bytes = lead :: behind := by
    cases sequence <;> exact ⟨_, _, rfl⟩
  rw [List.cons_append, List.length_cons]
  rcases sequence.lead_cases position with ⟨rfl, single⟩ | ⟨part, leads⟩
  · simp [decodeFrom, single]
  · rw [decodeFrom_lead leads, ((completes_iff leads).mpr sequence).decodeFrom_eq, Nat.add_assoc,
      Nat.add_comm 1]

end Decoder

/-! ### Whole texts -/

/-- **The bytes of characters are decoded to them**, whatever follows. -/
theorem decodeFrom_encode (position : Nat) (done chars : List Char) (rest : List UInt8) :
    decodeFrom position done none (encode chars ++ rest)
      = decodeFrom (position + (encode chars).length) (chars.reverse ++ done) none rest := by
  induction chars generalizing position done with
  | nil => rfl
  | cons c chars ih =>
      rw [encode_cons, List.append_assoc, (sequence_utf8EncodeChar c).decodeFrom_eq,
        Char.ofNat_toNat, ih]
      simp [Nat.add_assoc]

theorem decode_behind (chars : List Char) (rest : List UInt8) :
    decode (encode chars ++ rest) = decodeFrom (encode chars).length chars.reverse none rest := by
  rw [decode, decodeFrom_encode, Nat.zero_add, List.append_nil]

theorem decode_encode (chars : List Char) : decode (encode chars) = .ok chars := by
  rw [← List.append_nil (encode chars), decode_behind, decodeFrom, List.reverse_reverse]

/-- What the decoder says where an unfinished character cannot be completed. -/
theorem decodeFrom_open {lead : UInt8} {taken : List UInt8} {part later : Unfinished} {position : Nat}
    (leads : start? position lead.toNat = some (.inr part)) (passes : part.Passes taken later)
    (done : List Char) (rest : List UInt8) :
    decodeFrom position done none (lead :: taken ++ rest)
        = decodeFrom (position + 1 + taken.length) done (some later) rest ∧
      later.position = position ∧ later.length = taken.length + 1 ∧ later.lead = lead.toNat := by
  obtain ⟨-, place, first, one⟩ := sound_of_start? leads
  obtain ⟨place', first', length⟩ := passes.reported
  refine ⟨?_, place'.trans place, ?_, first'.trans first⟩
  · rw [List.cons_append, decodeFrom_lead leads, passes.decodeFrom_eq]
  · omega

/-- **Flawed bytes are refused** with their flaw. -/
theorem Flawed.decode_eq {bytes : List UInt8} {fault : Fault} (flawed : Flawed bytes fault) :
    decode bytes = .error fault := by
  cases flawed with
  | startByte chars rest stray =>
      rw [decode_behind]
      simp only [decodeFrom, start?_eq_none_iff.mpr stray]
  | @continuationByte chars lead next taken rest opens stray =>
      obtain ⟨part, later, leads, passes⟩ := opens.exists_passes (encode chars).length
      obtain ⟨run, place, length, first⟩ := decodeFrom_open leads passes chars.reverse (next :: rest)
      have outside : ¬(later.low ≤ next.toNat ∧ next.toNat ≤ later.high) :=
        mt (takes_iff leads passes).mp stray
      rw [decode_behind, run, ← place, ← length, ← first]
      simp [decodeFrom, outside]
  | endOfData chars opens =>
      obtain ⟨part, later, leads, passes⟩ := opens.exists_passes (encode chars).length
      obtain ⟨run, place, length, first⟩ := decodeFrom_open leads passes chars.reverse []
      rw [List.append_nil] at run
      rw [decode_behind, run, ← place, ← length, ← first, decodeFrom]

/-- Bytes start with those of a character, or they are flawed. -/
theorem char_or_flawed (lead : UInt8) (rest : List UInt8) :
    (∃ c behind, lead :: rest = String.utf8EncodeChar c ++ behind) ∨
      ∃ fault, Flawed (lead :: rest) fault := by
  cases first : start? 0 lead.toNat with
  | none => exact .inr ⟨_, .startByte [] rest (start?_eq_none_iff.mp first)⟩
  | some accepted =>
      cases accepted with
      | inl c =>
          have same := (Sequence.one (small_of_start? first)).utf8EncodeChar_eq
          exact .inl ⟨Char.ofNat lead.toNat, rest, by rw [same]; rfl⟩
      | inr part =>
          rcases Unfinished.passes_cases (sound_of_start? first).1 rest with
            ⟨behind, number, others, completes, rfl⟩ | ⟨later, passes⟩ |
            ⟨taken, next, others, later, passes, stray, rfl⟩
          · have sequence := (completes_iff first).mp completes
            exact .inl ⟨Char.ofNat number, others, by rw [sequence.utf8EncodeChar_eq]; rfl⟩
          · exact .inr ⟨_, .endOfData [] (opens_of_passes first passes)⟩
          · have outside := mt (takes_iff first passes).mpr stray
            exact .inr ⟨_, .continuationByte [] others (opens_of_passes first passes) outside⟩

/-- Bytes behind those of a character are flawed as they are alone, only further on. -/
theorem Flawed.behind {bytes : List UInt8} {fault : Fault} (flawed : Flawed bytes fault) (c : Char) :
    ∃ fault, Flawed (String.utf8EncodeChar c ++ bytes) fault := by
  have further : ∀ chars rest, String.utf8EncodeChar c ++ (encode chars ++ rest)
      = encode (c :: chars) ++ rest := by simp
  cases flawed with
  | startByte chars rest stray =>
      rw [further]
      exact ⟨_, .startByte (c :: chars) rest stray⟩
  | continuationByte chars rest opens stray =>
      rw [further]
      exact ⟨_, .continuationByte (c :: chars) rest opens stray⟩
  | endOfData chars opens =>
      rw [further]
      exact ⟨_, .endOfData (c :: chars) opens⟩

/-- **Bytes are those of characters, or they are flawed.** -/
theorem encode_or_flawed (bytes : List UInt8) :
    (∃ chars, bytes = encode chars) ∨ ∃ fault, Flawed bytes fault := by
  -- on the number of bytes: every character uses up at least one
  induction size : bytes.length using Nat.strongRecOn generalizing bytes with
  | ind size ih =>
      subst size
      cases bytes with
      | nil => exact .inl ⟨[], rfl⟩
      | cons lead rest =>
          rcases char_or_flawed lead rest with ⟨c, behind, split⟩ | flawed
          · rw [split] at ih ⊢
            have shorter : behind.length < (String.utf8EncodeChar c ++ behind).length := by
              rw [List.length_append, String.length_utf8EncodeChar]
              exact Nat.lt_add_of_pos_left c.utf8Size_pos
            rcases ih _ shorter behind rfl with ⟨chars, rfl⟩ | ⟨fault, flawed⟩
            · exact .inl ⟨c :: chars, (encode_cons c chars).symm⟩
            · exact .inr (flawed.behind c)
          · exact .inr flawed

/-- **Bytes are decoded to characters** if and only if they are the bytes of these. -/
theorem decode_eq_ok_iff {bytes : List UInt8} {chars : List Char} :
    decode bytes = .ok chars ↔ bytes = encode chars := by
  refine ⟨fun decoded => ?_, fun same => same ▸ decode_encode chars⟩
  rcases encode_or_flawed bytes with ⟨others, rfl⟩ | ⟨fault, flawed⟩
  · rw [decode_encode] at decoded
    cases decoded
    rfl
  · rw [flawed.decode_eq] at decoded
    cases decoded

/-- **Bytes are refused with a fault** if and only if they are flawed where and as it says. -/
theorem decode_eq_error_iff {bytes : List UInt8} {fault : Fault} :
    decode bytes = .error fault ↔ Flawed bytes fault := by
  refine ⟨fun refused => ?_, Flawed.decode_eq⟩
  rcases encode_or_flawed bytes with ⟨chars, rfl⟩ | ⟨other, flawed⟩
  · rw [decode_encode] at refused
    cases refused
  · rw [flawed.decode_eq] at refused
    cases refused
    exact flawed

end Utf8

end SmallLisp.Text
