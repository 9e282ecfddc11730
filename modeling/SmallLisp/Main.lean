/-
**The command line.** Reads the environment, the named files and standard input, runs the programs
and writes what they printed and logged.
-/

import SmallLisp.CommandLine.Run

namespace SmallLisp.CommandLine

/-- The system's error number; some calls report it with the opposite sign. -/
def errorNumber (code : UInt32) : Nat := if code < 0x80000000 then code.toNat else (0 - code).toNat

/-- The content of a file, or why it cannot be read. -/
def readFile (name : String) : IO (Except FileFault (List UInt8)) := do
  try
    let bytes ← IO.FS.readBinFile name
    return .ok bytes.toList
  catch error =>
    match error with
    | .noFileOrDirectory .. => return .error .missing
    | .permissionDenied .. => return .error .denied
    | .invalidArgument _ code _ =>
      return .error (if errorNumber code = 36 then .nameTooLong else ⟨22, "Invalid argument"⟩)
    | .inappropriateType _ code _ =>
      return .error (if errorNumber code = 20 then .notDirectory else .directory)
    | other => return .error ⟨5, toString other⟩

/-- Everything that can be read from standard input. -/
partial def readInput (stream : IO.FS.Stream) (done : ByteArray) : IO ByteArray := do
  let chunk ← stream.read 65536
  if chunk.isEmpty then return done else readInput stream (done ++ chunk)

/-- The surroundings of a run with the given options. -/
def hostOf (options : Options) : IO Host := do
  let level ← IO.getEnv "MINILISP_LOG_LEVEL"
  let limit ← IO.getEnv "MINILISP_RECURSION_LIMIT"
  let env : Environment := fun name =>
    if name = "MINILISP_LOG_LEVEL" then level
    else if name = "MINILISP_RECURSION_LIMIT" then limit
    else none
  let input ← if options.files.isEmpty then readInput (← IO.getStdin) .empty else pure .empty
  let files ← options.files.mapM fun name => do return (name, ← readFile name)
  return ⟨env, input.toList, fun name => (files.lookup name).getD (.error .missing)⟩

/-- Writes what a run left behind and gives the exit status. -/
def deliver (report : Report) : IO UInt32 := do
  IO.print report.output
  IO.eprint report.log
  match report.ending with
  | .exit status => return status.toUInt32
  | .escape failure =>
    IO.eprintln failure.message
    return 1

end SmallLisp.CommandLine

open SmallLisp.CommandLine in
/-- Runs programs as the command line asks. -/
def main (arguments : List String) : IO UInt32 := do
  match readOptions arguments with
  | .ok (some options) => deliver (runOptions (← hostOf options) options)
  | .ok none => deliver helpReport
  | .error fault => deliver (refusalReport fault)
