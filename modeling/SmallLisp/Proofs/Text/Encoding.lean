/-
**UTF-8 as it should be.**

What bytes stand for, said without the decoder: `encode` strings the bytes of characters together, and
`Flawed` says where and why bytes are not made up in that way. Between the two and the decoder stands
`Sequence`, the table of the byte sequences of single characters:

* `sequence_utf8EncodeChar`: the bytes of every character are in the table, with its number;
* `Sequence.utf8EncodeChar_eq`: every sequence in the table is that of the character of its number.
-/

import SmallLisp.Text.Utf8

namespace SmallLisp.Text

namespace Utf8

/-- The bytes of characters, one after the other. -/
def encode (chars : List Char) : List UInt8 := chars.flatMap String.utf8EncodeChar

@[simp] theorem encode_cons (c : Char) (chars : List Char) :
    encode (c :: chars) = String.utf8EncodeChar c ++ encode chars := List.flatMap_cons

/-- A byte that continues a sequence. -/
def Continues (byte : UInt8) : Prop := 0x80 ≤ byte.toNat ∧ byte.toNat ≤ 0xBF

/-- The byte sequences of single characters, with the numbers of the characters. The lead byte says
how many bytes follow it, and every sequence is the shortest of its number; no number is that of a
surrogate or beyond the last character. -/
inductive Sequence : List UInt8 → Nat → Prop
  | one {lead : UInt8} (small : lead.toNat < 0x80) : Sequence [lead] lead.toNat
  | two {lead last : UInt8} {number : Nat} (leads : 0xC2 ≤ lead.toNat ∧ lead.toNat < 0xE0)
      (ends : Continues last) (value : number = lead.toNat % 0x20 * 0x40 + last.toNat % 0x40) :
      Sequence [lead, last] number
  | three {lead next last : UInt8} {number : Nat} (leads : 0xE0 ≤ lead.toNat ∧ lead.toNat < 0xF0)
      (follows : Continues next) (shortest : lead.toNat = 0xE0 → 0xA0 ≤ next.toNat)
      (noSurrogate : lead.toNat = 0xED → next.toNat ≤ 0x9F) (ends : Continues last)
      (value : number
        = (lead.toNat % 0x10 * 0x40 + next.toNat % 0x40) * 0x40 + last.toNat % 0x40) :
      Sequence [lead, next, last] number
  | four {lead next third last : UInt8} {number : Nat}
      (leads : 0xF0 ≤ lead.toNat ∧ lead.toNat < 0xF5)
      (follows : Continues next) (shortest : lead.toNat = 0xF0 → 0x90 ≤ next.toNat)
      (inRange : lead.toNat = 0xF4 → next.toNat ≤ 0x8F) (goesOn : Continues third)
      (ends : Continues last)
      (value : number = ((lead.toNat % 0x08 * 0x40 + next.toNat % 0x40) * 0x40 + third.toNat % 0x40)
        * 0x40 + last.toNat % 0x40) :
      Sequence [lead, next, third, last] number

/-- **The bytes of a character are in the table**, with its number. -/
theorem sequence_utf8EncodeChar (c : Char) : Sequence (String.utf8EncodeChar c) c.toNat := by
  have valid : c.toNat < 0xD800 ∨ 0xDFFF < c.toNat ∧ c.toNat < 0x110000 := c.valid
  unfold String.utf8EncodeChar
  simp only [Char.toNat_val]
  split
  · have lead := UInt8.toNat_ofNat_of_lt' (show c.toNat < 0x100 by omega)
    have one := Sequence.one (show (UInt8.ofNat c.toNat).toNat < 0x80 by omega)
    rwa [lead] at one
  have last := UInt8.toNat_ofNat_of_lt' (show c.toNat % 64 + 128 < 0x100 by omega)
  split
  · have lead := UInt8.toNat_ofNat_of_lt' (show c.toNat / 64 % 32 + 192 < 0x100 by omega)
    refine .two ?_ ?_ ?_
    all_goals simp only [Continues, lead, last]
    all_goals omega
  have third := UInt8.toNat_ofNat_of_lt' (show c.toNat / 64 % 64 + 128 < 0x100 by omega)
  split
  · have lead := UInt8.toNat_ofNat_of_lt' (show c.toNat / 4096 % 16 + 224 < 0x100 by omega)
    refine .three ?_ ?_ ?_ ?_ ?_ ?_
    all_goals simp only [Continues, lead, third, last]
    all_goals omega
  · have lead := UInt8.toNat_ofNat_of_lt' (show c.toNat / 262144 % 8 + 240 < 0x100 by omega)
    have next := UInt8.toNat_ofNat_of_lt' (show c.toNat / 4096 % 64 + 128 < 0x100 by omega)
    refine .four ?_ ?_ ?_ ?_ ?_ ?_ ?_
    all_goals simp only [Continues, lead, next, third, last]
    all_goals omega

/-- The number of a sequence is that of a character. -/
theorem Sequence.isValidChar {bytes : List UInt8} {number : Nat} (sequence : Sequence bytes number) :
    number.isValidChar := by
  unfold Nat.isValidChar
  cases sequence with
  | one small => omega
  | two leads ends => omega
  | three leads follows shortest noSurrogate ends =>
      unfold Continues at *
      omega
  | four leads follows shortest inRange goesOn ends =>
      unfold Continues at *
      omega

/-- **Every sequence in the table is that of a character.** -/
theorem Sequence.utf8EncodeChar_eq {bytes : List UInt8} {number : Nat}
    (sequence : Sequence bytes number) : String.utf8EncodeChar (Char.ofNat number) = bytes := by
  have same : (Char.ofNat number).val.toNat = number := by
    rw [Char.ofNat, dif_pos sequence.isValidChar]
    rfl
  have byte : ∀ {n : Nat} {byte : UInt8}, n = byte.toNat → UInt8.ofNat n = byte := by
    rintro n byte rfl
    exact UInt8.ofNat_toNat
  unfold String.utf8EncodeChar
  simp only [same]
  cases sequence with
  | @one lead small => rw [if_pos (by omega), byte rfl]
  | @two lead last _ leads ends =>
      unfold Continues at *
      rw [if_neg (by omega), if_pos (by omega), byte (show _ = lead.toNat by omega),
        byte (show _ = last.toNat by omega)]
  | @three lead next last _ leads follows shortest noSurrogate ends =>
      unfold Continues at *
      rw [if_neg (by omega), if_neg (by omega), if_pos (by omega),
        byte (show _ = lead.toNat by omega), byte (show _ = next.toNat by omega),
        byte (show _ = last.toNat by omega)]
  | @four lead next third last _ leads follows shortest inRange goesOn ends =>
      unfold Continues at *
      rw [if_neg (by omega), if_neg (by omega), if_neg (by omega),
        byte (show _ = lead.toNat by omega), byte (show _ = next.toNat by omega),
        byte (show _ = third.toNat by omega), byte (show _ = last.toNat by omega)]

/-! ### Flaws -/

/-- Bytes with which those of a character start. -/
def Starts (bytes : List UInt8) : Prop := ∃ c behind, String.utf8EncodeChar c = bytes ++ behind

/-- Bytes with which those of a character start, and which are not all of them. -/
def Opens (bytes : List UInt8) : Prop :=
  ∃ c behind, behind ≠ [] ∧ String.utf8EncodeChar c = bytes ++ behind

/-- **Where and why bytes are not UTF-8.** Behind whole characters stands a byte with which no character
starts; or bytes that open a character and one with which they do not go on; or bytes that open a
character and then nothing. The fault has their position, their number and the first of them. -/
inductive Flawed : List UInt8 → Fault → Prop
  | startByte (chars : List Char) {lead : UInt8} (rest : List UInt8) (stray : ¬Starts [lead]) :
      Flawed (encode chars ++ lead :: rest) ⟨(encode chars).length, 1, lead.toNat, .startByte⟩
  | continuationByte (chars : List Char) {lead next : UInt8} {taken : List UInt8} (rest : List UInt8)
      (opens : Opens (lead :: taken)) (stray : ¬Starts (lead :: taken ++ [next])) :
      Flawed (encode chars ++ (lead :: taken ++ next :: rest))
        ⟨(encode chars).length, taken.length + 1, lead.toNat, .continuationByte⟩
  | endOfData (chars : List Char) {lead : UInt8} {taken : List UInt8} (opens : Opens (lead :: taken)) :
      Flawed (encode chars ++ lead :: taken)
        ⟨(encode chars).length, taken.length + 1, lead.toNat, .endOfData⟩

theorem Opens.starts {bytes : List UInt8} (opens : Opens bytes) : Starts bytes := by
  obtain ⟨c, behind, -, same⟩ := opens
  exact ⟨c, behind, same⟩

theorem Sequence.starts {bytes behind : List UInt8} {number : Nat}
    (sequence : Sequence (bytes ++ behind) number) : Starts bytes :=
  ⟨Char.ofNat number, behind, sequence.utf8EncodeChar_eq⟩

theorem Starts.exists_sequence {bytes : List UInt8} (starts : Starts bytes) :
    ∃ behind number, Sequence (bytes ++ behind) number := by
  obtain ⟨c, behind, same⟩ := starts
  exact ⟨behind, c.toNat, same ▸ sequence_utf8EncodeChar c⟩

end Utf8

end SmallLisp.Text
