import DiagramScript.Diagram.Listing
import DiagramScript.Program.Options
import DiagramScript.Script.Run

/-! One run of the program, as a function of its arguments and the files it finds. A run writes the
listing of a script, or it reports one message; it never does both. -/
namespace DiagramScript

structure Exit where
  status : Nat
  output : Text
  errors : Text
deriving DecidableEq

structure Effects (Path : Type) extends Exit where
  /-- A path and the entry that is added to the log there. -/
  log? : Option (Path × Text)
deriving DecidableEq

namespace Session

/-- The listing of a script, or the message about the line that was refused. -/
def answer (source : Text) : Except Text Text :=
  match Diagram.ofSource source with
  | .ok diagram => .ok diagram.listing
  | .error error => .error error.message.toList

def unreadable (path : Text) (reason : String) : Text :=
  s!"Failed to read the input file '{String.ofList path}': {reason}".toList

def report {Path : Type} (logFile : Path) (time : String) (message : Text) : Effects Path where
  status := 1
  output := []
  errors := message ++ ['\n']
  log? := some (logFile, (Log.entry time (String.ofList message)).toList)

def effects {Path : Type} (logFile : Path) (time : String) (source : Except Text Text) :
    Effects Path :=
  match source.bind answer with
  | .ok listing => ⟨⟨0, listing, []⟩, none⟩
  | .error message => report logFile time message

variable {files : FileSystem} {Argument : Type}

def source (options : Options files.Path) (state : files.State) : Except Text Text :=
  if options.fromFile then
    match files.readText state (files.path options.contents) with
    | .ok content => .ok content
    | .error reason => .error (unreadable options.contents reason)
  else .ok options.contents

/-- A whole run, and the files after it. The parser of the arguments may end the run by itself, as
it does when they are no proper ones. -/
def run (parse : List Argument → Except Exit (Options files.Path)) (arguments : List Argument)
    (state : files.State) (time : String) : Exit × files.State :=
  match parse arguments with
  | .error ending => (ending, state)
  | .ok options =>
    let done := effects options.logFile time (source options state)
    match done.log? with
    | some (path, entry) => (done.toExit, files.append state path entry.encode)
    | none => (done.toExit, state)

end Session
end DiagramScript
