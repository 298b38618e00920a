import ChartScript.Command
import Std.Time

/-!
# The program

Gathers what the command looks at, runs it and writes its outcome.
-/

set_option autoImplicit false

namespace ChartScript

/-- The number of a system error, whichever sign it was given. -/
def errorNumber (code : UInt32) : Nat := min code.toNat (UInt32.size - code.toNat)

/-- What the file system has at a path. -/
def lookUp (path : Path) : IO Finding := do
  try
    return .file (← IO.FS.readBinFile path.text.toString).toList
  catch
    | .inappropriateType _ code _ =>
      return if errorNumber code == Refusal.isDirectory.code then .directory else .missing
    | .permissionDenied .. => return .denied
    | .invalidArgument _ code _ =>
      return if errorNumber code == Refusal.nameTooLong.code then .tooLong else .missing
    | _ => return .missing

/-- All bytes that are left on a stream, after those already read. -/
partial def readAll (stream : IO.FS.Stream) (read : ByteArray) : IO ByteArray := do
  let chunk ← stream.read 65536
  if chunk.isEmpty then return read else readAll stream (read ++ chunk)

/-- The surroundings of the program, as far as the arguments make it look at them. -/
def surroundings (arguments : List Text) : IO Workspace := do
  let directory := Path.parse (← IO.currentDir).toString
  let values ← Command.variableNames.mapM fun name => return (name, ← IO.getEnv name)
  let env : Environment := fun name => (values.lookup name).join.map Text.ofString
  let platform : Platform := {}
  match CommandLine.parse platform.dropsDoubleDash arguments with
  | .ok (.invoke i) =>
    let findings ← (Command.paths directory i).mapM fun path => return (path, ← lookUp path)
    let input ← if Command.readsInput i then readAll (← IO.getStdin) .empty else pure .empty
    let find := fun path => (findings.lookup path).getD .missing
    return { directory, find, input := input.toList, env, platform }
  | _ => return { directory, find := fun _ => .missing, input := [], env, platform }

/-- A message as it is written to the standard error. -/
def writtenMessage : Message → IO String
  | .text text => return text.toString
  | .record record => do
    let time := (← Std.Time.PlainDateTime.now).format "uuuu-MM-dd HH:mm:ss,SSS"
    return (record.text time).toString ++ "\n"

end ChartScript

open ChartScript in
/-- Runs the command on the arguments of the program. -/
def main (arguments : List String) : IO UInt32 := do
  let arguments := arguments.map Text.ofString
  let outcome := Command.run (← surroundings arguments) arguments
  for message in outcome.messages do
    IO.eprint (← writtenMessage message)
  IO.print outcome.output.toString
  match outcome.ending with
  | .exit code => return code.toUInt32
  | .broken cause =>
    IO.eprintln cause.message.toString
    return 1
