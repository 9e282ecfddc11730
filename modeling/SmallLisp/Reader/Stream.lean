/-
**Token streams.** A stream holds the tokens that are still to be read, one of them perhaps
already looked at, and the fault that ended the text behind the last token, if any. That fault is
raised once, by whatever first needs a token that is not there; after it the stream is at its end.

`readExpr` reads one expression and `readAll` all of them; a failure leaves in the stream exactly
the tokens that were not used up. `readSource` reads a whole text: the forms before the first
fault, and the fault.
-/

import SmallLisp.Reader.Expr
import SmallLisp.Token.Lexer

namespace SmallLisp

/-- Tokens to be read: one that was looked at, those behind it, and the fault after the last. -/
structure TokenStream where
  lookahead : Option Token
  unread : List Token
  fault : Option Fault
  deriving DecidableEq, Repr

/-- Expressions read in a row, and the fault that stopped the reader, if any. -/
structure Reading where
  forms : List Value
  fault : Option Fault
  deriving DecidableEq, Repr

namespace TokenStream

/-- A stream over a split text. -/
def ofLexed (lexed : Lexed) : TokenStream := ⟨none, lexed.tokens, lexed.fault⟩

/-- A stream over given tokens. -/
def ofTokens (tokens : List Token) : TokenStream := ⟨none, tokens, none⟩

/-- The tokens that are still to be read, in order. -/
def pending (stream : TokenStream) : List Token := stream.lookahead.toList ++ stream.unread

/-- Looks at the next token without using it up. -/
def peek (stream : TokenStream) : Except Fault (Option Token) × TokenStream :=
  match stream.lookahead, stream.unread, stream.fault with
  | some token, _, _ => (.ok (some token), stream)
  | none, token :: rest, fault => (.ok (some token), ⟨some token, rest, fault⟩)
  | none, [], some fault => (.error fault, ⟨none, [], none⟩)
  | none, [], none => (.ok none, stream)

/-- Uses up the next token. -/
def advance (stream : TokenStream) : Except Fault (Option Token) × TokenStream :=
  match stream.lookahead, stream.unread, stream.fault with
  | some token, unread, fault => (.ok (some token), ⟨none, unread, fault⟩)
  | none, token :: rest, fault => (.ok (some token), ⟨none, rest, fault⟩)
  | none, [], some fault => (.error fault, ⟨none, [], none⟩)
  | none, [], none => (.ok none, stream)

/-! ### Looking and advancing through the pending tokens -/

@[simp] theorem pending_ofLexed (lexed : Lexed) : (ofLexed lexed).pending = lexed.tokens := rfl

@[simp] theorem pending_ofTokens (tokens : List Token) : (ofTokens tokens).pending = tokens := rfl

/-- Looking uses nothing up. -/
@[simp] theorem pending_peek (stream : TokenStream) : stream.peek.2.pending = stream.pending := by
  obtain ⟨_ | token, _ | ⟨next, rest⟩, _ | fault⟩ := stream <;> rfl

/-- Advancing uses up exactly the first pending token. -/
@[simp] theorem pending_advance (stream : TokenStream) :
    stream.advance.2.pending = stream.pending.tail := by
  obtain ⟨_ | token, _ | ⟨next, rest⟩, _ | fault⟩ := stream <;> rfl

/-! ### Reading -/

/-- Goes on with an expression through the given tokens, after which `ending` is raised. The
result is `none` if the tokens end before an expression has begun. -/
def readExprFrom (ending : Option Fault) :
    Pending → List Token → Except Fault (Option Value) × TokenStream
  | reader, [] =>
    match ending, reader.endFault? with
    | some fault, _ => (.error fault, ⟨none, [], none⟩)
    | none, some fault => (.error fault, ⟨none, [], none⟩)
    | none, none => (.ok none, ⟨none, [], none⟩)
  | reader, token :: rest =>
    match reader.step token with
    | .more next => readExprFrom ending next rest
    | .done value => (.ok (some value), ⟨none, rest, ending⟩)
    | .fail fault => (.error fault, ⟨none, rest, ending⟩)
    | .refuse fault => (.error fault, ⟨some token, rest, ending⟩)

/-- Reads one expression, nested no more than `room` deep; `none` at the end of the stream. -/
def readExpr (room : Nat) (stream : TokenStream) : Except Fault (Option Value) × TokenStream :=
  readExprFrom stream.fault (Pending.start room) stream.pending

/-- Goes on reading expressions through the given tokens; `forms` holds those that are complete,
newest first. -/
def readAllFrom (room : Nat) (ending : Option Fault) :
    Pending → List Value → List Token → Reading × TokenStream
  | reader, forms, [] =>
    (⟨forms.reverse, ending <|> reader.endFault?⟩, ⟨none, [], none⟩)
  | reader, forms, token :: rest =>
    match reader.step token with
    | .more next => readAllFrom room ending next forms rest
    | .done value => readAllFrom room ending (Pending.start room) (value :: forms) rest
    | .fail fault => (⟨forms.reverse, some fault⟩, ⟨none, rest, ending⟩)
    | .refuse fault => (⟨forms.reverse, some fault⟩, ⟨some token, rest, ending⟩)

/-- Reads expressions up to the end of the stream or the first fault. -/
def readAll (room : Nat) (stream : TokenStream) : Reading × TokenStream :=
  readAllFrom room stream.fault (Pending.start room) [] stream.pending

end TokenStream

/-- The forms of a source text up to its first fault, nested no more than `room` deep. -/
def readSource (room : Nat) (source : String) : Reading :=
  ((TokenStream.ofLexed (lex source)).readAll room).1

/-- The forms of a source text, all of which must be readable. -/
def parse (room : Nat) (source : String) : Except Fault (List Value) :=
  match readSource room source with
  | ⟨forms, none⟩ => .ok forms
  | ⟨_, some fault⟩ => .error fault

/-- Whether the text of a value reads back as exactly that value. -/
def readsBack (room : Nat) (value : Value) : Bool :=
  match parse room value.render with
  | .ok [again] => again.same value
  | _ => false

end SmallLisp
