import DiagramScript.Text.Basic

/-! Entries of the log of failed runs. -/
namespace DiagramScript.Log

def defaultFile : String := "log.txt"

def entry (time message : String) : String :=
  s!"{time}:\n\nMetadata:\n    graph_gen version: 3.0.0\n\nMessage:\n{message}\n\nEND LOG\n"

end DiagramScript.Log
