/-
**Sessions.** A session keeps one world and evaluates source texts in it, form by form at the top
level. The first form that fails ends a run; what the forms before it bound and printed stays. A
text that cannot be read to its end fails only after the forms before its fault were evaluated.

The journal records, newest entry first, which forms were begun and how many forms each completed
run had.
-/

import SmallLisp.Eval.Evaluate
import SmallLisp.Reader.Stream

namespace SmallLisp

/-- An entry of the journal: a form was begun, or a run of so many forms was completed. -/
inductive Event where
  | evaluating (form : Value)
  | evaluated (count : Nat)
  deriving DecidableEq, Repr

/-- A world in which programs are run, with the bound on nesting and the journal. -/
structure Session where
  depth : Nat
  world : World
  journal : List Event

/-- A computation in a session. -/
abbrev SessionM := EStateM Fault Session

namespace Session

/-- A new session in which expressions may be nested `depth` deep, in text and in evaluation. -/
def fresh (depth : Nat) : Session := ⟨depth, .initial, []⟩

/-- Adds an entry to the journal. -/
def record (event : Event) : SessionM Unit :=
  modify fun session => { session with journal := event :: session.journal }

/-- The symbol that a form starts with. -/
def operator? : Value → Option String
  | .pair (.sym name) _ => some name
  | _ => none

/-- A fault of a top-level form: exhausted depth is reported with the form. -/
def formFault (form : Value) : Fault → Fault
  | .depthExhausted => .recursion (operator? form)
  | fault => fault

/-- Evaluates one form at the top level. -/
def evaluate (form : Value) : SessionM Value := do
  record (.evaluating form)
  fun ⟨depth, world, journal⟩ =>
    match eval depth form .top world with
    | .ok value world => .ok value ⟨depth, world, journal⟩
    | .error fault world => .error (formFault form fault) ⟨depth, world, journal⟩

/-- Evaluates forms one after the other; `done` holds the results so far, newest first. -/
def evaluateAll : List Value → List Value → SessionM (List Value)
  | [], done => return done.reverse
  | form :: forms, done => do
    let result ← evaluate form
    evaluateAll forms (result :: done)

/-- Runs a source text: one result per form, `void` for a definition. -/
def run (code : String) : SessionM (List Value) := do
  let session ← get
  let reading := readSource session.depth code
  let results ← evaluateAll reading.forms []
  match reading.fault with
  | some fault => throw fault
  | none =>
    record (.evaluated results.length)
    return results

/-- What a text amounts to as a whole. -/
inductive Answer where
  | one (value : Value)
  | many (values : List Value)
  deriving DecidableEq, Repr

/-- The answer for some results: the empty list for none, the value for one, else all of them. -/
def Answer.ofResults : List Value → Answer
  | [] => .one .nil
  | [value] => .one value
  | values => .many values

/-- Runs a source text and sums up its results. -/
def answer (code : String) : SessionM Answer := do
  return Answer.ofResults (← run code)

/-- Starts a session by running a prelude, if it is not empty. -/
def start (prelude : String) : SessionM Unit :=
  if prelude.isEmpty then return () else discard (run prelude)

/-- The top-level binding of a name. -/
def lookup (session : Session) (name : String) : Option Value :=
  session.world.store.topLevel name

end Session

end SmallLisp
