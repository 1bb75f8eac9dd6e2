import OpcodeTable.Unicode.Printable
import OpcodeTable.Utf8

set_option autoImplicit false

namespace OpcodeTable.Text

def hexDigits (width value : Nat) : String :=
  let digits := Nat.toDigits 16 value
  String.ofList (List.replicate (width - digits.length) '0' ++ digits)

def escapeScalar (code : Nat) : String :=
  match code with
  | 0x07 => "\\a"
  | 0x08 => "\\b"
  | 0x09 => "\\t"
  | 0x0A => "\\n"
  | 0x0B => "\\v"
  | 0x0C => "\\f"
  | 0x0D => "\\r"
  | code =>
      if code < 0x20 || code == 0x7F then "\\x" ++ hexDigits 2 code
      else if code < 0x10000 then "\\u" ++ hexDigits 4 code
      else "\\U" ++ hexDigits 8 code

def escape : Utf8.Glyph → String
  | .stray byte => "\\x" ++ hexDigits 2 byte.toNat
  | .scalar code =>
      let c := Char.ofNat code
      if c == '"' || c == '\\' then String.ofList ['\\', c]
      else if Unicode.isPrintable code then String.ofList [c]
      else escapeScalar code

def quote (text : String) : String :=
  "\"" ++ String.join ((Utf8.glyphsOfText text).map escape) ++ "\""

end OpcodeTable.Text
