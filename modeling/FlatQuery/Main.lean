import FlatQuery.Command.Run
import FlatQuery.Command.Usage

/-!
# The command line

Reads the files a command needs, runs it, and prints what it says.
-/

namespace FlatQuery

/-- What reading a file failed with. Error numbers may come negated. -/
def ReadFailure.ofError (error : IO.Error) : ReadFailure :=
  match error with
  | .noFileOrDirectory _ _ _ => missing
  | .permissionDenied _ _ _ => ⟨.permissionDenied, "Permission denied (os error 13)"⟩
  | .inappropriateType _ code _ => if code = 21 then directory else throughFile
  | .invalidArgument _ code _ =>
    if code = 36 ∨ -code = 36 then nameTooLong else ⟨.invalidInput, toString error⟩
  | _ => ⟨.other, toString error⟩

def readFile (path : String) : IO (Except ReadFailure (List UInt8)) := do
  if path.toList.contains '\x00' then return .error .nulByte
  try
    let bytes ← IO.FS.readBinFile path
    return .ok bytes.data.toList
  catch error => return .error (.ofError error)

/-- The files at some paths. Every other path counts as missing. -/
def readFiles (paths : List String) : IO Files := do
  let known ← paths.mapM fun path => do return (path, ← readFile path)
  return fun path => (known.lookup path).getD (.error .missing)

/-- Prints an outcome and gives the exit code. -/
def Command.Outcome.print (o : Outcome) : IO UInt8 := do
  try
    let stdout ← IO.getStdout
    stdout.putStr o.printed
    stdout.flush
    IO.eprint o.diagnostics
    return o.exitCode
  catch error =>
    IO.eprintln (Failure.io (toString error)).render
    return 1

def runCommand (command : Command) : IO UInt8 := do
  let start ← IO.monoMsNow
  let settings ← readFiles command.configPaths
  let files ← readFiles (command.configPaths ++ command.tablePaths settings)
  let stop ← IO.monoMsNow
  (command.run files .warn (stop - start)).print

def runArguments (arguments : List String) : IO UInt8 := do
  match Command.Request.parse arguments with
  | .ok (.run command) => runCommand command
  | .ok (.help verb?) => IO.print (Command.helpText verb?) *> return 0
  | .ok .version => IO.print Command.versionText *> return 0
  | .error .missingCommand => IO.eprint Command.programHelp *> return Command.usageExitCode
  | .error error =>
    IO.eprintln ("error: " ++ error.message)
    return Command.usageExitCode

end FlatQuery

def main (arguments : List String) : IO UInt32 := do
  return (← FlatQuery.runArguments arguments).toUInt32
