import Std.Time
import DiagramScript.Program.Session

/-! The command line: reads the script, and carries out what the session decides. -/
namespace DiagramScript.CommandLine

def failureText : IO.Error → String
  | .noFileOrDirectory _ code details => s!"{details} (os error {code})"
  | .permissionDenied _ code details => s!"{details} (os error {code})"
  | .invalidArgument _ code details => s!"{details} (os error {code})"
  | .inappropriateType _ code details => s!"{details} (os error {code})"
  | .resourceExhausted _ code details => s!"{details} (os error {code})"
  | failure => toString failure

def readScript (path : String) : IO (Except Text Text) := do
  try
    let file ← IO.FS.Handle.mk path .read
    let bytes ← file.readBinToEnd
    match Text.decode? bytes with
    | some text => return .ok text
    | none => return .error (Session.unreadable path.toList FileSystem.notText)
  catch failure =>
    return .error (Session.unreadable path.toList (failureText failure))

/-- Adds an entry to a log; a log that cannot be written is left alone. -/
def appendEntry (path entry : String) : IO Unit := do
  try
    let log ← IO.FS.Handle.mk path .append
    log.putStr entry
  catch _ => return ()

def timeStamp : IO String := do
  let now ← Std.Time.PlainDateTime.now
  return now.format "uuuu-MM-dd HH:mm:ss.SSSSSS"

def finish (ending : Exit) : IO UInt32 := do
  IO.print (String.ofList ending.output)
  IO.eprint (String.ofList ending.errors)
  return UInt32.ofNat ending.status

def run (parse : List String → Except Exit (Options String)) (arguments : List String) :
    IO UInt32 := do
  match parse arguments with
  | .error ending => finish ending
  | .ok options =>
    let source ←
      if options.fromFile then readScript (String.ofList options.contents)
      else pure (.ok options.contents)
    let logFile := options.logFile?.getD Log.defaultFile
    let effects := Session.effects logFile (← timeStamp) source
    let status ← finish effects.toExit
    match effects.log? with
    | some (path, entry) => appendEntry path (String.ofList entry)
    | none => pure ()
    return status

end DiagramScript.CommandLine
