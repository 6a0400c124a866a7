import DiagramScript.Text.Encoding

/-! The files around the program, by what it does with them. Where paths lead, and which files may
be read or written, is the affair of the system that it runs on. -/
namespace DiagramScript

structure FileSystem where
  Path : Type
  File : Type
  /-- What all files are like at one time. -/
  State : Type
  path : Text → Path
  /-- What a file holds, if it is there. -/
  bytes? : State → File → Option ByteArray
  /-- All bytes of the file at a path, or the reason why they cannot be read. -/
  read : State → Path → Except String ByteArray
  /-- The files after bytes were to be added at the end of the one at a path, which is made when it
  is missing. An attempt that fails leaves them as it may. -/
  append : State → Path → ByteArray → State

namespace FileSystem

def notText : String := "stream did not contain valid UTF-8"

def readText (files : FileSystem) (state : files.State) (path : files.Path) :
    Except String Text := do
  let bytes ← files.read state path
  match Text.decode? bytes with
  | some text => .ok text
  | none => .error notText

end FileSystem
end DiagramScript
