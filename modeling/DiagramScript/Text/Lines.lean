import DiagramScript.Text.Basic

/-! The lines of a source. A line feed ends a line, together with one carriage return directly
before it; text after the last line feed is a line only when there is some. -/
namespace DiagramScript.Text

def lines : Text → List Text
  | [] => []
  | '\n' :: rest => [] :: lines rest
  | '\r' :: '\n' :: rest => [] :: lines rest
  | c :: rest =>
    match lines rest with
    | [] => [[c]]
    | first :: others => (c :: first) :: others

end DiagramScript.Text
