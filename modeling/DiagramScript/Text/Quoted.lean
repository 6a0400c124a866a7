import DiagramScript.Text.Printable

/-! Text between double quotes. Quotes, backslashes and everything that cannot be shown are written
as escapes, so a quoted text is one line and ends at its first quote without a backslash. -/
namespace DiagramScript.Text

def escapeCode (c : Char) : Text :=
  "\\u\x7b".toList ++ Nat.toDigits 16 c.toNat ++ ['\x7d']

def escapeChar (c : Char) : Text :=
  if c = '\x00' then "\\0".toList
  else if c = '\t' then "\\t".toList
  else if c = '\r' then "\\r".toList
  else if c = '\n' then "\\n".toList
  else if c = '"' then "\\\"".toList
  else if c = '\\' then "\\\\".toList
  else if isPrintable c then [c]
  else escapeCode c

def quoted (text : Text) : Text :=
  '"' :: text.flatMap escapeChar ++ ['"']

end DiagramScript.Text
