/-
**Splitting text into tokens.** The scanner reads one character at a time. Between tokens it
skips blanks, and a semicolon hides the rest of its line. A string runs to the next double quote
that no backslash escapes; an atom is a longest run of characters that are neither blank nor one
of `( ) ' " ;`. The only text that cannot be split is one whose last string is never closed: its
tokens up to there come out together with the fault.
-/

import SmallLisp.Text.Blank
import SmallLisp.Token.Basic

namespace SmallLisp

/-- What the scanner is in the middle of. The characters of an unfinished token stand newest
first; `escaped` says that the last character of a string was an escaping backslash. -/
inductive Scanner.Mode where
  | gap
  | comment
  | atom (chars : List Char)
  | string (start : Nat) (chars : List Char) (escaped : Bool)
  deriving DecidableEq, Repr

/-- The state of the scanner: how many characters were read, the finished tokens with the newest
first, and what is being read. -/
structure Scanner where
  position : Nat
  tokens : List Token
  mode : Scanner.Mode
  deriving DecidableEq, Repr

/-- A text split into tokens, with the fault that cut it short. -/
structure Lexed where
  tokens : List Token
  fault : Option Fault
  deriving DecidableEq, Repr

namespace Scanner

/-- The scanner before the first character. -/
def initial : Scanner := ⟨0, [], .gap⟩

/-- Whether `c` ends an atom. -/
def isDelimiter (c : Char) : Bool :=
  Text.isBlank c || c = '(' || c = ')' || c = '\x27' || c = '\x22' || c = ';'

/-- The text of an unfinished token. -/
def textOf (chars : List Char) : String := String.ofList chars.reverse

/-- Reads a character that stands between two tokens, or directly after one. -/
def start (position : Nat) (tokens : List Token) (c : Char) : Scanner :=
  if Text.isBlank c then ⟨position + 1, tokens, .gap⟩
  else if c = ';' then ⟨position + 1, tokens, .comment⟩
  else if c = '\x27' then ⟨position + 1, ⟨.quote, "'"⟩ :: tokens, .gap⟩
  else if c = '(' then ⟨position + 1, ⟨.lparen, "("⟩ :: tokens, .gap⟩
  else if c = ')' then ⟨position + 1, ⟨.rparen, ")"⟩ :: tokens, .gap⟩
  else if c = '\x22' then ⟨position + 1, tokens, .string position [c] false⟩
  else ⟨position + 1, tokens, .atom [c]⟩

/-- Reads one character. -/
def step (scanner : Scanner) (c : Char) : Scanner :=
  match scanner with
  | ⟨position, tokens, .gap⟩ => start position tokens c
  | ⟨position, tokens, .comment⟩ =>
    ⟨position + 1, tokens, if c = '\n' then .gap else .comment⟩
  | ⟨position, tokens, .atom chars⟩ =>
    if isDelimiter c then start position (⟨.atom, textOf chars⟩ :: tokens) c
    else ⟨position + 1, tokens, .atom (c :: chars)⟩
  | ⟨position, tokens, .string opened chars escaped⟩ =>
    if escaped then ⟨position + 1, tokens, .string opened (c :: chars) false⟩
    else if c = '\\' then ⟨position + 1, tokens, .string opened (c :: chars) true⟩
    else if c = '\x22' then ⟨position + 1, ⟨.string, textOf (c :: chars)⟩ :: tokens, .gap⟩
    else ⟨position + 1, tokens, .string opened (c :: chars) false⟩

/-- The tokens at the end of the text. -/
def finish (scanner : Scanner) : Lexed :=
  match scanner.mode with
  | .gap | .comment => ⟨scanner.tokens.reverse, none⟩
  | .atom chars => ⟨(⟨.atom, textOf chars⟩ :: scanner.tokens).reverse, none⟩
  | .string opened _ _ => ⟨scanner.tokens.reverse, some (.openString opened)⟩

end Scanner

/-- The tokens of a row of characters. -/
def lexChars (chars : List Char) : Lexed := (chars.foldl Scanner.step Scanner.initial).finish

/-- The tokens of a source text. -/
def lex (source : String) : Lexed := lexChars source.toList

end SmallLisp
