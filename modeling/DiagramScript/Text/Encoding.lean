import DiagramScript.Text.Basic

/-! Text as the bytes of its UTF-8 form, in which it stands in files. -/
namespace DiagramScript.Text

def encode (text : Text) : ByteArray :=
  (String.ofList text).toUTF8

def decode? (bytes : ByteArray) : Option Text :=
  (String.fromUTF8? bytes).map String.toList

end DiagramScript.Text
