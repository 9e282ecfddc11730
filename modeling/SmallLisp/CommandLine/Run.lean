/-
**Running programs from the command line.** The named files, or standard input if none is named,
are run one after the other in one session; the first failure ends the run. A fault of the program
or a file that cannot be read is logged and gives exit status 1. Four things are not caught: bad
settings, a file name that holds a null character, a source that is not UTF-8, and a fault that has
no kind; they escape.

Three things about the surroundings are taken for granted. Standard input can be read, and it is
decoded as strictly as a file: as UTF-8, where the first malformed byte is a failure, as in a locale
of that encoding. Other encodings and other ways to treat malformed bytes, which a locale may ask for,
are left out. And what is printed and logged can always be written.
-/

import SmallLisp.CommandLine.Options
import SmallLisp.Session
import SmallLisp.Settings
import SmallLisp.Text.Lines
import SmallLisp.Text.Utf8

namespace SmallLisp.CommandLine

/-! ### The surroundings of a run -/

/-- Why a file cannot be read: the number and the wording of the system's error. -/
structure FileFault where
  code : Nat
  reason : String
  deriving DecidableEq, Repr

namespace FileFault

/-- There is no such file. -/
def missing : FileFault := ⟨2, "No such file or directory"⟩

/-- The file may not be read. -/
def denied : FileFault := ⟨13, "Permission denied"⟩

/-- The name goes on behind that of a file. -/
def notDirectory : FileFault := ⟨20, "Not a directory"⟩

/-- The name is that of a directory. -/
def directory : FileFault := ⟨21, "Is a directory"⟩

/-- The name, or a part of it, is longer than the system allows. -/
def nameTooLong : FileFault := ⟨36, "File name too long"⟩

/-- The wording of a failure to read the file `name`. -/
def message (fault : FileFault) (name : String) : String :=
  "cannot read source: [Errno " ++ toString fault.code ++ "] " ++ fault.reason ++ ": "
    ++ Text.quoted name

end FileFault

/-- What a run finds: the environment, the bytes of standard input, and those of the files or why they
cannot be read. That standard input cannot be read, or output cannot be written, is not foreseen. -/
structure Host where
  env : Environment
  input : List UInt8
  file : String → Except FileFault (List UInt8)

/-- Where a program comes from. -/
inductive Source where
  | input
  | file (name : String)
  deriving DecidableEq, Repr

/-- The programs to be run, in order. -/
def Options.sources (options : Options) : List Source :=
  if options.files.isEmpty then [.input] else options.files.map .file

/-! ### Running -/

/-- What ends a run early. -/
inductive Stop where
  | program (fault : Fault)
  | file (name : String) (fault : FileFault)
  | nullInName
  | encoding (fault : Text.Utf8.Fault)
  deriving DecidableEq, Repr

/-- The text of a program: UTF-8, with uniform line ends. -/
def decodeSource (bytes : List UInt8) : Except Stop String :=
  match Text.Utf8.decode bytes with
  | .ok chars => .ok (String.ofList (Text.unifyLines chars))
  | .error fault => .error (.encoding fault)

/-- Reads the text of a program. Standard input is taken to be UTF-8, as a file is, and bytes that are
malformed are not replaced or passed over. -/
def Host.load (host : Host) : Source → Except Stop String
  | .input => decodeSource host.input
  | .file name =>
    if name.toList.contains (Char.ofNat 0) then .error .nullInName
    else
      match host.file name with
      | .ok bytes => decodeSource bytes
      | .error fault => .error (.file name fault)

/-- Runs programs one after the other in a session, up to the first that fails. -/
def runSources (host : Host) : List Source → Session → Option Stop × Session
  | [], session => (none, session)
  | source :: sources, session =>
    match host.load source with
    | .error stop => (some stop, session)
    | .ok code =>
      match Session.run code session with
      | .ok _ session => runSources host sources session
      | .error fault session => (some (.program fault), session)

/-! ### Logging -/

/-- A line of the log, with the part of the program that writes it. -/
structure LogLine where
  origin : String
  level : LogLevel
  message : String
  deriving DecidableEq, Repr

/-- A log line as text. -/
def LogLine.text (line : LogLine) : String :=
  line.origin ++ " - " ++ line.level.name ++ " - " ++ line.message ++ "\n"

/-- The line for an entry of the journal. -/
def LogLine.ofEvent : Event → LogLine
  | .evaluating form => ⟨"minilisp.runtime", .debug, "evaluating " ++ form.render⟩
  | .evaluated count =>
    ⟨"minilisp.interpreter", .debug, "evaluated " ++ toString count ++ " top-level forms"⟩

/-- The text of the lines that reach the threshold. -/
def logText (threshold : LogLevel) (lines : List LogLine) : String :=
  let shown := lines.filter fun line => threshold.severity ≤ line.level.severity
  String.join (shown.map LogLine.text)

/-! ### The whole run -/

/-- A failure that is not caught. -/
inductive Escape where
  | setting (fault : SettingFault)
  | nullInName
  | encoding (fault : Text.Utf8.Fault)
  | program (fault : Fault)
  deriving DecidableEq, Repr

/-- The wording of a failure that is not caught. -/
def Escape.message : Escape → String
  | .setting fault => fault.message
  | .nullInName => "embedded null byte"
  | .encoding fault => fault.message
  | .program fault => fault.message

/-- How a run ends. -/
inductive Ending where
  | exit (status : Nat)
  | escape (failure : Escape)
  deriving DecidableEq, Repr

/-- What a run leaves behind: how it ended, the nesting limit, and what it wrote to standard
output and to the log. -/
structure Report where
  ending : Ending
  limit : Int
  output : String
  log : String
  deriving DecidableEq, Repr

/-- The end of a run, and the line that is logged for it. -/
def endingOf : Option Stop → Ending × List LogLine
  | none => (.exit 0, [])
  | some (.program fault) =>
    match fault.kind? with
    | some kind => (.exit 1, [⟨"minilisp", .error, kind.name ++ ": " ++ fault.message⟩])
    | none => (.escape (.program fault), [])
  | some (.file name fault) => (.exit 1, [⟨"minilisp", .error, fault.message name⟩])
  | some .nullInName => (.escape .nullInName, [])
  | some (.encoding fault) => (.escape (.encoding fault), [])

/-- Runs the programs that the options name under given settings. -/
def runPrograms (host : Host) (options : Options) (threshold : LogLevel) (limit : Int) : Report :=
  let (stop, session) := runSources host options.sources (.fresh limit.toNat)
  let (ending, lines) := endingOf stop
  let log := logText threshold (session.journal.reverse.map .ofEvent ++ lines)
  ⟨ending, limit, session.world.output, log⟩

/-- The threshold for log lines and the nesting limit; the threshold is settled first. -/
def settle (options : Options) (env : Environment) : Except SettingFault (LogLevel × Int) := do
  let threshold ← logThreshold options.logLevel env
  let limit ← requestedLimit options.recursionLimit env
  return (threshold, ← raiseLimit initialLimit limit)

/-- Applies the settings and runs the programs. -/
def runOptions (host : Host) (options : Options) : Report :=
  match settle options host.env with
  | .ok (threshold, limit) => runPrograms host options threshold limit
  | .error fault => ⟨.escape (.setting fault), initialLimit, "", ""⟩

/-- The report of a run that only shows the description of the options. -/
def helpReport : Report := ⟨.exit 0, initialLimit, helpText, ""⟩

/-- The report of a command line that is refused. -/
def refusalReport (fault : UsageFault) : Report := ⟨.exit 2, initialLimit, "", refusalText fault⟩

/-- What a command line does. -/
def run (host : Host) (arguments : List String) : Report :=
  match readOptions arguments with
  | .ok (some options) => runOptions host options
  | .ok none => helpReport
  | .error fault => refusalReport fault

end SmallLisp.CommandLine
