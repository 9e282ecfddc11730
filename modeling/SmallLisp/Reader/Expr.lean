/-
**Reading expressions.** The reader takes one token at a time and keeps the expressions that are
still open in a list of frames, so that no input, however deeply nested, needs more than constant
room outside that list. `room` is how many more expressions may be opened inside each other; an
expression that would start without room is refused.

A token that cannot go on the expression is either used up by its fault (a dot out of place, a
word or a string that cannot be read, a quote mark with no room behind it) or left for the next
reader (everything else).
-/

import SmallLisp.Reader.Literal
import SmallLisp.Token.Basic
import SmallLisp.Value.List

namespace SmallLisp

/-- What an open expression waits for: the expression after a quote mark, the next element of a
list, or the expression after the dot of a list. The elements read so far stand newest first. -/
inductive Frame where
  | quote
  | list (items : List Value)
  | tail (items : List Value)
  deriving DecidableEq, Repr

/-- Where the reader stands: before an expression (or, inside a list, before its end or its dot),
or before the parenthesis that must close a list after its dotted tail. -/
inductive Pending where
  | expr (room : Nat) (frames : List Frame)
  | close (room : Nat) (items : List Value) (tail : Value) (frames : List Frame)
  deriving DecidableEq, Repr

/-- What a token leads to: the reader goes on, the expression is complete, or it fails with the
token used up (`fail`) or left unread (`refuse`). -/
inductive Move where
  | more (pending : Pending)
  | done (value : Value)
  | fail (fault : Fault)
  | refuse (fault : Fault)
  deriving DecidableEq, Repr

/-- The form that a quote mark before `value` stands for. -/
def quoteForm (value : Value) : Value := Value.ofList [.sym "quote", value]

/-- Gives a complete expression, read with `room` to spare, to the frames that wait for it. -/
def resume (value : Value) (room : Nat) : List Frame → Move
  | [] => .done value
  | .quote :: frames => resume (quoteForm value) (room + 1) frames
  | .list items :: frames => .more (.expr room (.list (value :: items) :: frames))
  | .tail items :: frames => .more (.close room items value frames)

/-- Gives a literal to the frames, or fails with the literal's fault. -/
def resumeLiteral (room : Nat) (frames : List Frame) : Except Fault Value → Move
  | .ok value => resume value room frames
  | .error fault => .fail fault

/-- Whether a token is the dot of a list. -/
def Token.isDot (token : Token) : Bool := token.kind = .atom && token.text = "."

/-- Reads a token that must start an expression. -/
def startExpr (room : Nat) (frames : List Frame) (token : Token) : Move :=
  match room with
  | 0 => .refuse .nestedTooDeeply
  | inner + 1 =>
    match token.kind with
    | .atom =>
      if token.isDot then .fail .dotOutsideList
      else resumeLiteral room frames (readAtom token.text)
    | .string => resumeLiteral room frames ((readString token.text).map .str)
    | .quote =>
      -- what is quoted starts at once, before any token of it is looked at or the input ends
      if inner = 0 then .fail .nestedTooDeeply else .more (.expr inner (.quote :: frames))
    | .lparen => .more (.expr inner (.list [] :: frames))
    | .rparen => .refuse .unmatchedClose
    | .other name => .refuse (.unknownToken name token.text)

namespace Pending

/-- The reader before a new expression. -/
def start (room : Nat) : Pending := .expr room []

/-- Reads one token. -/
def step (pending : Pending) (token : Token) : Move :=
  match pending with
  | .close room items tail frames =>
    if token.kind = .rparen then resume (Value.chain items.reverse tail) (room + 1) frames
    else .refuse .dotNotClosed
  | .expr room (.list items :: frames) =>
    if token.kind = .rparen then resume (Value.ofList items.reverse) (room + 1) frames
    else if token.isDot then
      if items.isEmpty then .refuse .dotFirst else .more (.expr room (.tail items :: frames))
    else startExpr room (.list items :: frames) token
  | .expr room (.tail items :: frames) =>
    if token.kind = .rparen then .refuse .dotLast
    else startExpr room (.tail items :: frames) token
  | .expr room frames => startExpr room frames token

/-- The fault of input that ends here; none if no expression has begun. -/
def endFault? : Pending → Option Fault
  | .close _ _ _ _ => some .dotNotClosed
  | .expr _ [] => none
  | .expr _ (.quote :: _) => some .quoteAtEnd
  | .expr _ (.list _ :: _) => some .unmatchedOpen
  | .expr _ (.tail _ :: _) => some .dotLast

end Pending

end SmallLisp
