/-
**Faults.** Everything that can go wrong while a program is read or evaluated is one constructor
of `Fault`, with the values that caused it; `message` words it. Faults fall into kinds, and the
kinds form a tree under `Kind.base`: every kind but the root has a parent that covers it.

Four faults belong to no kind, because no program is meant to see them: a number with more
digits than are ever read, a result with more digits than are ever written, a piece of text that is
too short for what is read from it, and the bare exhaustion of the depth of evaluation, before it
is tied to the form that caused it.
-/

import SmallLisp.Text.Decimal
import SmallLisp.Value.Inspect

namespace SmallLisp

/-- The kinds of faults. -/
inductive Kind where
  | base
  | shape
  | notAList
  | emptyList
  | read
  | arity
  | type
  | overflow
  | unbound
  | notCallable
  | scope
  | recursion
  deriving DecidableEq, Repr

namespace Kind

/-- The name under which a kind is reported. -/
def name : Kind → String
  | .base => "LispError"
  | .shape => "LispSyntaxError"
  | .notAList => "LispNotAListError"
  | .emptyList => "LispEmptyListError"
  | .read => "LispReadError"
  | .arity => "LispArityError"
  | .type => "LispTypeError"
  | .overflow => "LispOverflowError"
  | .unbound => "LispUnboundSymbol"
  | .notCallable => "LispNotCallable"
  | .scope => "LispScopeError"
  | .recursion => "LispRecursionError"

/-- All kinds, the root first. -/
def all : List Kind :=
  [.base, .shape, .notAList, .emptyList, .read, .arity, .type, .overflow, .unbound, .notCallable,
   .scope, .recursion]

/-- The kind with a given name. -/
def ofName? (name : String) : Option Kind := all.find? (fun kind => kind.name = name)

/-- The kinds that cover a kind, the kind itself first and the root last. -/
def ancestry : Kind → List Kind
  | .base => [.base]
  | .notAList => [.notAList, .shape, .base]
  | .emptyList => [.emptyList, .shape, .base]
  | .read => [.read, .shape, .base]
  | .overflow => [.overflow, .type, .base]
  | kind => [kind, .base]

end Kind

/-- A cause of failure. -/
inductive Fault where
  /-- a string that starts at `position` is never closed -/
  | openString (position : Nat)
  /-- a word that is no number and no symbol -/
  | invalidToken (text : String)
  /-- a number outside the signed 64-bit range -/
  | integerRange (text : String)
  /-- a number of more digits than are ever read -/
  | digitCount (count : Nat)
  /-- a result of more digits than are ever written -/
  | resultTooLong
  /-- a character is read where the text has ended -/
  | textEnd
  /-- a backslash before a character that has no escape -/
  | unknownEscape (escape : Char) (token : String)
  /-- a dot where an expression is expected -/
  | dotOutsideList
  /-- a quote mark with nothing after it -/
  | quoteAtEnd
  /-- a right parenthesis where an expression is expected -/
  | unmatchedClose
  /-- a list that is never closed -/
  | unmatchedOpen
  /-- a dot before the first element of a list -/
  | dotFirst
  /-- a dot with no expression after it -/
  | dotLast
  /-- a dotted tail that is not followed by the end of the list -/
  | dotNotClosed
  /-- a token of a kind that no text produces -/
  | unknownToken (kind text : String)
  /-- expressions nested more deeply than the reader allows -/
  | nestedTooDeeply
  /-- a proper list was expected -/
  | notAList (value : Value)
  /-- an element was taken from the empty list -/
  | emptyList
  /-- the arguments of a built-in are no proper list -/
  | argumentsNotAList (arguments : Value)
  /-- a function was given the wrong number of arguments -/
  | arity (name : String) (expected found : Nat)
  /-- an arithmetic built-in was given something other than integers -/
  | operandTypes (tag : Builtin) (arguments : Value)
  /-- the result of an arithmetic built-in leaves the signed 64-bit range -/
  | overflow (tag : Builtin) (result : Int)
  /-- no scope has been created under this id -/
  | noScope (id : Int)
  /-- a path that does not start at the top level -/
  | pathNotFromTop (ids : List Int)
  /-- a symbol that names no built-in and is bound nowhere on the path -/
  | unbound (name : String)
  /-- the operator of a call is no function -/
  | notCallable (value form : Value)
  /-- an operator or argument that produces no value -/
  | noValue (expr : Value)
  /-- a mark that is no value of the language was evaluated -/
  | notEvaluable (value : Value)
  /-- a `define` form without exactly two operands -/
  | defineOperands (operands : Value)
  /-- a `define` form whose target is no symbol -/
  | defineTarget (target : Value)
  /-- a `define` form whose expression produces no value -/
  | defineNoValue (name : String) (expr : Value)
  /-- an `if` form without exactly three operands -/
  | ifOperands (operands : Value)
  /-- an `if` form whose condition is no boolean -/
  | ifCondition (value : Value)
  /-- a `lambda` form without exactly two operands -/
  | lambdaOperands (operands : Value)
  /-- a parameter that is no symbol -/
  | lambdaParameter (param : Value)
  /-- evaluation is nested more deeply than allowed -/
  | depthExhausted
  /-- a top-level form, by the symbol it starts with, nested too deeply -/
  | recursion (operator : Option String)
  deriving DecidableEq, Repr

namespace Fault

/-- The kind of a fault, for those that have one. -/
def kind? : Fault → Option Kind
  | .openString _ | .invalidToken _ | .integerRange _ | .unknownEscape _ _ | .dotOutsideList
  | .quoteAtEnd | .unmatchedClose | .unmatchedOpen | .dotFirst | .dotLast | .dotNotClosed
  | .unknownToken _ _ => some .read
  | .notAList _ => some .notAList
  | .emptyList => some .emptyList
  | .argumentsNotAList _ | .noValue _ | .defineOperands _ | .defineTarget _ | .defineNoValue _ _
  | .ifOperands _ | .lambdaOperands _ | .lambdaParameter _ => some .shape
  | .arity _ _ _ => some .arity
  | .operandTypes _ _ | .notEvaluable _ | .ifCondition _ => some .type
  | .overflow _ _ => some .overflow
  | .noScope _ | .pathNotFromTop _ => some .scope
  | .unbound _ => some .unbound
  | .notCallable _ _ => some .notCallable
  | .nestedTooDeeply | .recursion _ => some .recursion
  | .digitCount _ | .resultTooLong | .textEnd | .depthExhausted => none

/-- The value that `if` was given, as its message names it. -/
def conditionText : Value → String
  | .void => "no value"
  | value => value.render

/-- The form that was nested too deeply, as its message names it. -/
def formText : Option String → String
  | some operator => "(" ++ operator ++ " ...)"
  | none => "top-level form"

/-- The operands of a `define` form without their opening parenthesis. -/
def operandText (operands : Value) : String := String.ofList (operands.render.toList.drop 1)

/-- How a number of too many digits is reported. -/
def digitLimitText : String :=
  "Exceeds the limit (" ++ toString Text.maxDigits ++ " digits) for integer string conversion"

/-- What is advised about a number of too many digits. -/
def digitLimitAdvice : String := "use sys.set_int_max_str_digits() to increase the limit"

/-- The wording of a fault. -/
def message : Fault → String
  | .openString position => "Unexpected char at " ++ toString position ++ ": " ++ Text.quoted "\""
  | .invalidToken text => "Invalid token: " ++ Text.quoted text
  | .integerRange text => "Integer literal out of range: " ++ text
  | .digitCount count =>
    digitLimitText ++ ": value has " ++ toString count ++ " digits; " ++ digitLimitAdvice
  | .resultTooLong => digitLimitText ++ "; " ++ digitLimitAdvice
  | .textEnd => "string index out of range"
  | .unknownEscape escape token =>
    "Unknown escape \\" ++ String.singleton escape ++ " in string " ++ token
  | .dotOutsideList => "Unexpected '.' outside of a list"
  | .quoteAtEnd => "Expected an expression after quote"
  | .unmatchedClose => "Unmatched ')'"
  | .unmatchedOpen => "Unmatched '('"
  | .dotFirst => "Expected an expression before '.'"
  | .dotLast => "Expected an expression after '.'"
  | .dotNotClosed => "Expected ')' after dotted cdr"
  | .unknownToken kind text => "Unknown token: " ++ kind ++ " " ++ text
  | .nestedTooDeeply => "input is nested too deeply to read"
  | .notAList value => "not a list: " ++ value.render
  | .emptyList => "list is empty"
  | .argumentsNotAList arguments => "arguments is not in a list: " ++ arguments.render
  | .arity name expected found =>
    name ++ ": expected " ++ toString expected ++ " arguments, found " ++ toString found
  | .operandTypes tag arguments =>
    "incorrect types in arguments to " ++ tag.name ++ ": " ++ arguments.render
  | .overflow tag result => "integer overflow in " ++ tag.name ++ ": " ++ toString result
  | .noScope id => "no scope with id " ++ toString id
  | .pathNotFromTop ids =>
    "scope path must start at the top level: " ++ ScopePath.tupleText ids
  | .unbound name => "unbound symbol: " ++ name
  | .notCallable _ form => "value in operator position cannot be called: " ++ form.render
  | .noValue expr => "expression produces no value: " ++ expr.render
  | .notEvaluable value => "cannot evaluate a non-minilisp value: " ++ value.inspect
  | .defineOperands operands =>
    "define requires exactly 2 operands: (define " ++ operandText operands
  | .defineTarget target => "define expects a symbol, got " ++ target.render
  | .defineNoValue name expr => "define of " ++ name ++ " has no value: " ++ expr.render
  | .ifOperands operands =>
    "if requires a condition, a then-branch and an else-branch: " ++ operands.render
  | .ifCondition value => "if condition must be a boolean, got " ++ conditionText value
  | .lambdaOperands operands =>
    "lambda requires a parameter list and one body: " ++ operands.render
  | .lambdaParameter param => "lambda parameter must be a symbol, got " ++ param.render
  | .depthExhausted => "maximum recursion depth exceeded"
  | .recursion operator => "maximum recursion depth exceeded in " ++ formText operator

end Fault

end SmallLisp
