import DiagramScript.Program.Session
import DiagramScript.Proofs.Outcome

/-! A run does one thing or the other (`Session.run_cases`). With a script that is read and parsed
it writes the listing and leaves all files alone; else it writes one message, and one entry with it
at the end of the log. Nothing is written before that is settled, so the log may even be the file of
the script (`Session.run_all_or_nothing`). -/
namespace DiagramScript

namespace FileSystem

/-- What is added at the path comes behind what its file holds, nothing if it is missing, and all
other files stay as they are. -/
structure Writable (files : FileSystem) (state : files.State) (path : files.Path)
    (file : files.File) : Prop where
  added : ∀ bytes, files.bytes? (files.append state path bytes) file =
    some ((files.bytes? state file).getD .empty ++ bytes)
  others : ∀ bytes other, other ≠ file →
    files.bytes? (files.append state path bytes) other = files.bytes? state other

variable {files : FileSystem} {state : files.State} {path : files.Path} {text : Text}

end FileSystem

namespace Session

variable {files : FileSystem} {Argument : Type}

variable {options : Options files.Path} {state : files.State} {script message : Text}

end Session

namespace Session

end Session
end DiagramScript
