/-
**UTF-8.** Decoding of a byte sequence that says exactly where and why a malformed one fails.
A lead byte fixes how many continuation bytes follow and in which range the first of them
lies (which rules out overlong forms, surrogates and codes above `U+10FFFF`). A byte that
cannot lead, a continuation byte out of range and an input that stops too early are the three
faults, reported at the lead byte together with the bytes of the sequence that were sound.
-/

namespace SmallLisp.Text

namespace Utf8

/-- Why a byte sequence is not UTF-8. -/
inductive Reason where
  | startByte
  | continuationByte
  | endOfData
  deriving DecidableEq, Repr

/-- How a reason reads. -/
def Reason.text : Reason → String
  | .startByte => "invalid start byte"
  | .continuationByte => "invalid continuation byte"
  | .endOfData => "unexpected end of data"

/-- A failure to decode: the offending bytes are the `length` bytes from `position` on, and
`lead` is the first of them. -/
structure Fault where
  position : Nat
  length : Nat
  lead : Nat
  reason : Reason
  deriving DecidableEq, Repr

/-- A character whose bytes have been read in part: the lead byte and its position, how many
bytes were read, how many are due, the bits read so far, and the range of the next byte. -/
structure Unfinished where
  position : Nat
  lead : Nat
  length : Nat
  due : Nat
  bits : Nat
  low : Nat
  high : Nat

/-- What a byte does at the start of a character: it is a character itself, it leads a longer
sequence, or it cannot stand there (`none`). -/
def start? (position byte : Nat) : Option (Char ⊕ Unfinished) :=
  if byte < 0x80 then some (.inl (Char.ofNat byte))
  else if byte < 0xC2 then none
  else if byte < 0xE0 then some (.inr ⟨position, byte, 1, 1, byte % 0x20, 0x80, 0xBF⟩)
  else if byte < 0xF0 then
    let low := if byte = 0xE0 then 0xA0 else 0x80
    let high := if byte = 0xED then 0x9F else 0xBF
    some (.inr ⟨position, byte, 1, 2, byte % 0x10, low, high⟩)
  else if byte < 0xF5 then
    let low := if byte = 0xF0 then 0x90 else 0x80
    let high := if byte = 0xF4 then 0x8F else 0xBF
    some (.inr ⟨position, byte, 1, 3, byte % 0x08, low, high⟩)
  else none

/-- Reads on from `position` with the characters in `done`, the last of them first. -/
def decodeFrom (position : Nat) (done : List Char) (unfinished : Option Unfinished) :
    List UInt8 → Except Fault (List Char)
  | [] =>
    match unfinished with
    | none => .ok done.reverse
    | some part => .error ⟨part.position, part.length, part.lead, .endOfData⟩
  | byte :: rest =>
    match unfinished with
    | none =>
      match start? position byte.toNat with
      | none => .error ⟨position, 1, byte.toNat, .startByte⟩
      | some (.inl c) => decodeFrom (position + 1) (c :: done) none rest
      | some (.inr part) => decodeFrom (position + 1) done (some part) rest
    | some part =>
      if part.low ≤ byte.toNat && byte.toNat ≤ part.high then
        let bits := part.bits * 0x40 + byte.toNat % 0x40
        if part.due ≤ 1 then decodeFrom (position + 1) (Char.ofNat bits :: done) none rest
        else
          decodeFrom (position + 1) done
            (some ⟨part.position, part.lead, part.length + 1, part.due - 1, bits, 0x80, 0xBF⟩) rest
      else .error ⟨part.position, part.length, part.lead, .continuationByte⟩

/-- The characters that the bytes encode. -/
def decode (bytes : List UInt8) : Except Fault (List Char) := decodeFrom 0 [] none bytes

/-- The message of a decoding fault names one byte by its value and several by their place. -/
def Fault.message (fault : Fault) : String :=
  let place :=
    if fault.length = 1 then
      "byte 0x" ++ String.ofList (Nat.toDigits 16 fault.lead) ++ " in position "
        ++ toString fault.position
    else
      "bytes in position " ++ toString fault.position ++ "-"
        ++ toString (fault.position + fault.length - 1)
  "'utf-8' codec can't decode " ++ place ++ ": " ++ fault.reason.text

end Utf8

end SmallLisp.Text
