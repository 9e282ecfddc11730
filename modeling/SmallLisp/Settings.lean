/-
**Settings.** Two settings come from the environment: how much is logged, and how deeply
expressions may be nested. A variable that is unset or blank counts as not given. A log level is
looked up by its upper-case name; two such names are taken by formats of log lines and are refused,
and any other unknown name means a warning. The nesting limit is only ever raised, and never above
what fits a signed 32-bit number.
-/

import SmallLisp.Text.Decimal
import SmallLisp.Text.Quoted
import SmallLisp.Text.Uppercase

namespace SmallLisp

/-- The values of environment variables. -/
abbrev Environment := String → Option String

/-- The value of a variable without surrounding blanks, or `fallback` if nothing is left. -/
def Environment.setting (env : Environment) (key fallback : String) : String :=
  match env key with
  | none => fallback
  | some raw =>
    let text := Text.trimBlank raw
    if text.isEmpty then fallback else text

/-- What can be wrong with a setting. -/
inductive SettingFault where
  /-- the log level is the name of the format of log lines -/
  | levelIsFormat
  /-- the log level is the name of the table of all formats -/
  | levelIsFormatTable
  /-- the variable holds something other than an integer -/
  | limitNotInteger (text : String)
  /-- the limit does not fit a signed 32-bit number -/
  | limitTooLarge
  deriving DecidableEq, Repr

/-- The format of log lines in a style whose fields open with `before` and close with `after`. -/
def lineFormat (before after : String) : String :=
  ":".intercalate (["levelname", "name", "message"].map fun field => before ++ field ++ after)

/-- An entry of the table of formats: the mark of a style, the name of the style, its format. -/
def formatEntry (mark style format : String) : String :=
  Text.quoted mark ++ ": (<class 'logging." ++ style ++ "'>, " ++ Text.quoted format ++ ")"

/-- The table of all formats as text. -/
def formatTable : String :=
  "\x7b" ++ ", ".intercalate
    [formatEntry "%" "PercentStyle" (lineFormat "%(" ")s"),
     formatEntry "\x7b" "StrFormatStyle" (lineFormat "\x7b" "\x7d"),
     formatEntry "$" "StringTemplateStyle" (lineFormat "$\x7b" "\x7d")] ++ "\x7d"

/-- The wording of a fault in the settings. -/
def SettingFault.message : SettingFault → String
  | .levelIsFormat => "Unknown level: " ++ Text.quoted (lineFormat "%(" ")s")
  | .levelIsFormatTable => "Level not an integer or a valid string: " ++ formatTable
  | .limitNotInteger text => "MINILISP_RECURSION_LIMIT must be an integer, got " ++ Text.quoted text
  | .limitTooLarge => "Python int too large to convert to C int"

/-! ### Logging -/

/-- How important a log line is. -/
inductive LogLevel where
  | notset
  | debug
  | info
  | warning
  | error
  | critical
  deriving DecidableEq, Repr

namespace LogLevel

/-- The severity of a level: a line is shown if its severity reaches that of the threshold. -/
def severity : LogLevel → Nat
  | .notset => 0
  | .debug => 10
  | .info => 20
  | .warning => 30
  | .error => 40
  | .critical => 50

/-- The name of a level in a log line. -/
def name : LogLevel → String
  | .notset => "NOTSET"
  | .debug => "DEBUG"
  | .info => "INFO"
  | .warning => "WARNING"
  | .error => "ERROR"
  | .critical => "CRITICAL"

/-- The level that an upper-case name means; a name that means nothing counts as a warning. -/
def ofName (name : String) : Except SettingFault LogLevel :=
  if name = "NOTSET" then .ok .notset
  else if name = "DEBUG" then .ok .debug
  else if name = "INFO" then .ok .info
  else if name = "ERROR" then .ok .error
  else if name = "CRITICAL" || name = "FATAL" then .ok .critical
  else if name = "BASIC_FORMAT" then .error .levelIsFormat
  else if name = "_STYLES" then .error .levelIsFormatTable
  else .ok .warning

end LogLevel

/-- The log level named in the environment, in upper case. -/
def logLevelName (env : Environment) : String :=
  Text.upper (env.setting "MINILISP_LOG_LEVEL" "WARNING")

/-- The threshold for log lines: the level asked for, or the one in the environment. -/
def logThreshold (asked : Option String) (env : Environment) : Except SettingFault LogLevel :=
  match asked with
  | some name => LogLevel.ofName (if name.isEmpty then logLevelName env else Text.upper name)
  | none => LogLevel.ofName (logLevelName env)

/-! ### The nesting limit -/

/-- The nesting limit before any setting is applied. -/
def initialLimit : Int := 1000

/-- The greatest nesting limit. -/
def maxLimit : Int := 2147483647

/-- The nesting limit in the environment. -/
def environmentLimit (env : Environment) : Except SettingFault Int :=
  let text := env.setting "MINILISP_RECURSION_LIMIT" "50000"
  match Text.readInteger? text with
  | some limit => .ok limit
  | none => .error (.limitNotInteger text)

/-- The limit asked for, unless that is zero or missing, or else the one in the environment. -/
def requestedLimit (asked : Option Int) (env : Environment) : Except SettingFault Int :=
  match asked with
  | some limit => if limit = 0 then environmentLimit env else .ok limit
  | none => environmentLimit env

/-- Raises the limit from `current` to `limit`; a smaller limit changes nothing. -/
def raiseLimit (current limit : Int) : Except SettingFault Int :=
  if limit ≤ current then .ok current
  else if limit ≤ maxLimit then .ok limit
  else .error .limitTooLarge

end SmallLisp
