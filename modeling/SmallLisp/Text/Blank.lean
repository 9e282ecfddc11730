/-
**Blank characters.** The white space of Unicode 14 with the four ASCII separators
`U+001C` to `U+001F`: what separates tokens of source text and what is trimmed off settings.
The zero-width space, the byte order mark and the Mongolian vowel separator are not blank.
-/

import SmallLisp.Text.CodePoints

namespace SmallLisp.Text

/-- The code points of the blank characters. -/
def blankRanges : List (Nat × Nat) :=
  [(0x9, 0xD), (0x1C, 0x20), (0x85, 0x85), (0xA0, 0xA0), (0x1680, 0x1680), (0x2000, 0x200A),
   (0x2028, 0x2029), (0x202F, 0x202F), (0x205F, 0x205F), (0x3000, 0x3000)]

/-- Whether `c` is white space. -/
def isBlank (c : Char) : Bool := inRanges c.toNat blankRanges

/-- The text without the characters of a class at its two ends. -/
def trimWhere (inClass : Char → Bool) (text : String) : String :=
  let rest := text.toList.dropWhile inClass
  String.ofList (rest.reverse.dropWhile inClass).reverse

/-- The text without the blank characters at its two ends. -/
def trimBlank (text : String) : String := trimWhere isBlank text

/-- Every character that core counts as white space is blank. -/
theorem isBlank_of_isWhitespace {c : Char} (white : c.isWhitespace) : isBlank c := by
  simp only [Char.isWhitespace, Bool.or_eq_true, decide_eq_true_eq] at white
  rcases white with ((rfl | rfl) | rfl) | rfl <;> decide

end SmallLisp.Text
