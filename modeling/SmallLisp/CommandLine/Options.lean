/-
**Command-line options.** Three options are known: help, the log level and the nesting limit; all
other words are file names. Words are first sorted out one by one: a word that starts with a dash
is an option, also in a shortened form that fits only one of them, unless it is a lone dash, looks
like a negative number or holds a space. A double dash ends the options, and only its first
occurrence is dropped.

The words are then taken from left to right. The file names are the first unbroken row of words
that belong to no option; every later such word and every unknown option is left over, and leftover
words are refused at the end. A value may stand in the same word as its option; there, a mere double
dash counts as no value and takes back what was given for the option before. Asking for help ends
the matter at once.
-/

import SmallLisp.Text.Decimal
import SmallLisp.Text.Quoted

namespace SmallLisp.CommandLine

/-- The known options. -/
inductive Flag where
  | help
  | logLevel
  | recursionLimit
  deriving DecidableEq, Repr

namespace Flag

/-- The full spelling of an option. -/
def spelling : Flag → String
  | .help => "--help"
  | .logLevel => "--log-level"
  | .recursionLimit => "--recursion-limit"

/-- The name of an option in messages. -/
def label : Flag → String
  | .help => "-h/--help"
  | flag => flag.spelling

/-- All options, in the order in which they are documented. -/
def all : List Flag := [.help, .logLevel, .recursionLimit]

end Flag

/-- A word of the command line: one that belongs to no option, the end of the options, an option
(`short` if it was spelt with one letter) with the value that was written in the same word, or an
option that is not known. -/
inductive Word where
  | plain (text : String)
  | separator
  | option (flag : Flag) (short : Bool) (value : Option String)
  | unknown (text : String)
  deriving DecidableEq, Repr

/-- Why a command line is refused. -/
inductive UsageFault where
  /-- a shortened option that fits several options -/
  | ambiguous (word : String) (options : List Flag)
  /-- a value given to an option that takes none -/
  | ignoredValue (flag : Flag) (value : String)
  /-- an option without its value -/
  | missingValue (flag : Flag)
  /-- a limit that is no integer -/
  | notAnInteger (text : String)
  /-- words that are left over -/
  | unrecognized (words : List String)
  deriving DecidableEq, Repr

/-- The wording of a refusal. -/
def UsageFault.message : UsageFault → String
  | .ambiguous word options =>
    "ambiguous option: " ++ word ++ " could match " ++ ", ".intercalate (options.map Flag.spelling)
  | .ignoredValue flag value =>
    "argument " ++ flag.label ++ ": ignored explicit argument " ++ Text.quoted value
  | .missingValue flag => "argument " ++ flag.label ++ ": expected one argument"
  | .notAnInteger text =>
    "argument " ++ Flag.recursionLimit.label ++ ": invalid int value: " ++ Text.quoted text
  | .unrecognized words => "unrecognized arguments: " ++ " ".intercalate words

/-! ### Sorting out words -/

/-- A text split at its first equals sign; without one, the second part is missing. -/
def splitEquals (text : List Char) : List Char × Option (List Char) :=
  match text.span (· ≠ '=') with
  | (before, _ :: after) => (before, some after)
  | (before, []) => (before, none)

/-- Whether the characters after a dash are those of a negative number: digits, with or without a
point, that end the word or its only line. -/
def isNumberTail (chars : List Char) : Bool :=
  let body := if chars.getLast? = some '\n' then chars.dropLast else chars
  match body.span Text.isDigit with
  | (whole, []) => !whole.isEmpty
  | (_, '.' :: fraction) => !fraction.isEmpty && fraction.all Text.isDigit
  | _ => false

/-- A word that starts with two dashes. -/
def sortLong (text : String) : Except UsageFault Word :=
  let (name, value) := splitEquals text.toList
  match Flag.all.filter (fun flag => flag.spelling.toList = name) with
  | flag :: _ => .ok (.option flag false (value.map String.ofList))
  | [] =>
    match Flag.all.filter (fun flag => name.isPrefixOf flag.spelling.toList) with
    | [flag] => .ok (.option flag false (value.map String.ofList))
    | [] => .ok (if text.contains ' ' then .plain text else .unknown text)
    | flags => .error (.ambiguous text flags)

/-- A word that starts with one dash, which `rest` follows. -/
def sortShort (text : String) (rest : List Char) : Word :=
  match rest with
  | ['h'] => .option .help true none
  | 'h' :: '=' :: value => .option .help true (some (String.ofList value))
  | 'h' :: value => .option .help true (some (String.ofList value))
  | _ =>
    if rest.isEmpty || isNumberTail rest || text.contains ' ' then .plain text else .unknown text

/-- Sorts out one word. -/
def sortWord (text : String) : Except UsageFault Word :=
  match text.toList with
  | '-' :: '-' :: _ => sortLong text
  | '-' :: rest => .ok (sortShort text rest)
  | _ => .ok (.plain text)

/-- Sorts out all words up to the double dash; the words after it are plain. -/
def sortWords : List String → Except UsageFault (List Word)
  | [] => .ok []
  | text :: rest =>
    if text = "--" then .ok (.separator :: rest.map .plain)
    else do
      let word ← sortWord text
      return word :: (← sortWords rest)

/-! ### Taking words -/

/-- What a command line asks for. -/
structure Options where
  files : List String
  logLevel : Option String
  recursionLimit : Option Int
  deriving DecidableEq, Repr

/-- The state in the middle of a command line: the options so far, the file names once they were
found, the current row of words without an option and the leftover words, both newest first. -/
structure Progress where
  logLevel : Option String
  recursionLimit : Option Int
  files : Option (List String)
  row : List String
  extras : List String

namespace Progress

/-- The state before the first word. -/
def initial : Progress := ⟨none, none, none, [], []⟩

/-- Ends the current row: the first one holds the file names, any other is left over. -/
def endRow (progress : Progress) : Progress :=
  match progress.row, progress.files with
  | [], _ => progress
  | row, none => { progress with files := some (row.reverse.erase "--"), row := [] }
  | row, some _ => { progress with extras := row ++ progress.extras, row := [] }

/-- Sets an option that takes a value. -/
def set (progress : Progress) (flag : Flag) (value : String) : Except UsageFault Progress :=
  match flag with
  | .logLevel => .ok { progress with logLevel := some value }
  | .recursionLimit =>
    match Text.readInteger? value with
    | some limit => .ok { progress with recursionLimit := some limit }
    | none => .error (.notAnInteger value)
  | .help => .error (.ignoredValue .help value)

/-- Takes back what was given for an option. -/
def clear (progress : Progress) : Flag → Progress
  | .logLevel => { progress with logLevel := none }
  | .recursionLimit => { progress with recursionLimit := none }
  | .help => progress

/-- Sets an option to the value that stands in the same word; a double dash counts as none. -/
def setAttached (progress : Progress) (flag : Flag) (value : String) :
    Except UsageFault Progress :=
  if value = "--" then .ok (progress.clear flag) else progress.set flag value

/-- What the whole command line asks for. -/
def finish (progress : Progress) : Except UsageFault Options :=
  let last := progress.endRow
  if last.extras.isEmpty then .ok ⟨last.files.getD [], last.logLevel, last.recursionLimit⟩
  else .error (.unrecognized last.extras.reverse)

end Progress

/-- Checks the value that was given to a request for help, which takes none. Behind the short
spelling it may repeat the letter of the option; what else stands there is refused. -/
def checkHelp (short : Bool) : Option String → Except UsageFault Unit
  | none => .ok ()
  | some value =>
    if short && !value.isEmpty then
      match value.toList.dropWhile (· = 'h') with
      | [] => .ok ()
      | rest => .error (.ignoredValue .help (String.ofList rest))
    else .error (.ignoredValue .help value)

/-- Takes the words one after the other; the result is `none` if help is asked for. -/
def takeWords (progress : Progress) : List Word → Except UsageFault (Option Options)
  | [] => do return some (← progress.finish)
  | .plain text :: rest => takeWords { progress with row := text :: progress.row } rest
  | .separator :: rest => takeWords { progress with row := "--" :: progress.row } rest
  | .unknown text :: rest =>
    let progress := progress.endRow
    takeWords { progress with extras := text :: progress.extras } rest
  | .option .help short value :: _ => do
    checkHelp short value
    return none
  | .option flag _ (some value) :: rest => do
    takeWords (← progress.endRow.setAttached flag value) rest
  | .option flag _ none :: .plain value :: rest => do
    takeWords (← progress.endRow.set flag value) rest
  | .option flag _ none :: _ => .error (.missingValue flag)

/-- What a command line asks for; `none` if it asks for help. -/
def readOptions (arguments : List String) : Except UsageFault (Option Options) := do
  takeWords .initial (← sortWords arguments)

/-! ### Texts -/

/-- The summary of the options. -/
def usageText : String :=
  "usage: minilisp [-h] [--log-level LOG_LEVEL]\n"
    ++ "                [--recursion-limit RECURSION_LIMIT]\n"
    ++ "                [files ...]\n"

/-- The full description of the options. -/
def helpText : String :=
  usageText
    ++ "\nEvaluate minilisp programs.\n"
    ++ "\npositional arguments:\n"
    ++ "  files                 source files; standard input when omitted\n"
    ++ "\noptions:\n"
    ++ "  -h, --help            show this help message and exit\n"
    ++ "  --log-level LOG_LEVEL\n"
    ++ "                        logging level (env: MINILISP_LOG_LEVEL)\n"
    ++ "  --recursion-limit RECURSION_LIMIT\n"
    ++ "                        host recursion limit (env: MINILISP_RECURSION_LIMIT)\n"

/-- What is written when a command line is refused. -/
def refusalText (fault : UsageFault) : String :=
  usageText ++ "minilisp: error: " ++ fault.message ++ "\n"

end SmallLisp.CommandLine
