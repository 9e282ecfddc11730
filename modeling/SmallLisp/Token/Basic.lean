/-
**Tokens.** A token is a piece of source text with its kind: a quote mark, a parenthesis, a
string with its quotes, or an atom (a number, a word or the dot). Text is only ever split into
these five kinds; a token of another kind can be handed to the reader and is refused there.
-/

import SmallLisp.Fault

namespace SmallLisp

/-- The kind of a token. -/
inductive TokenKind where
  | quote
  | lparen
  | rparen
  | string
  | atom
  | other (name : String)
  deriving DecidableEq, Repr

namespace TokenKind

/-- The name of a kind. -/
def name : TokenKind → String
  | .quote => "quote"
  | .lparen => "lparen"
  | .rparen => "rparen"
  | .string => "string"
  | .atom => "atom"
  | .other name => name

/-- The kind with a given name. -/
def ofName (name : String) : TokenKind :=
  if name = "quote" then .quote
  else if name = "lparen" then .lparen
  else if name = "rparen" then .rparen
  else if name = "string" then .string
  else if name = "atom" then .atom
  else .other name

@[simp] theorem name_ofName (text : String) : (ofName text).name = text := by
  unfold ofName
  repeat' split
  all_goals simp_all [TokenKind.name]

end TokenKind

/-- A piece of source text with its kind. -/
structure Token where
  kind : TokenKind
  text : String
  deriving DecidableEq, Repr

end SmallLisp
