import JpegLs.Text.Unseen

namespace JpegLs.Quoted

def hexDigits (code : Nat) : String :=
  String.ofList (Nat.toDigits 16 code)

def unicodeEscape (c : Char) : String :=
  "\\u\x7b" ++ hexDigits c.toNat ++ "\x7d"

def escape (c : Char) : String :=
  match c with
  | '"' => "\\\""
  | '\\' => "\\\\"
  | '\n' => "\\n"
  | '\r' => "\\r"
  | '\t' => "\\t"
  | '\x00' => "\\0"
  | c => if isUnseen c then unicodeEscape c else c.toString

def quote (text : String) : String :=
  "\"" ++ String.join (text.toList.map escape) ++ "\""

end JpegLs.Quoted
