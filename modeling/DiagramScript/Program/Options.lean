import DiagramScript.Program.FileSystem
import DiagramScript.Program.Log

/-! What the program is asked for. Its arguments are read by a parser of options that comes with the
system: a flag, a path that may be missing, and one text. -/
namespace DiagramScript

structure Options (Path : Type) where
  /-- Whether the contents are the path of a file with the script. -/
  fromFile : Bool
  logFile? : Option Path
  /-- The script itself, or the path of its file. -/
  contents : Text

def Options.logFile {files : FileSystem} (options : Options files.Path) : files.Path :=
  options.logFile?.getD (files.path Log.defaultFile.toList)

end DiagramScript
