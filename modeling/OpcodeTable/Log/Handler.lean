import OpcodeTable.Decimal.Shortest
import OpcodeTable.Log.Entry
import OpcodeTable.Settings.Loose
import OpcodeTable.Text.Quoted

set_option autoImplicit false

namespace OpcodeTable.Log

open Decimal (Layout)

structure Handler where
  threshold : Level
  json : Bool
deriving DecidableEq, Repr

def trim (text : String) : String :=
  let blank := fun c : Char => Unicode.isBlank c.toNat
  String.ofList ((text.toList.dropWhile blank).reverse.dropWhile blank).reverse

def Level.ofText (text : String) : Level := (Level.ofBase? (trim text)).getD .info

def isPlainInJson (c : Char) : Bool := 0x20 ≤ c.toNat && c != '"' && c != '\\'

-- Inside a list or a table two more characters have an escape of one letter.
def jsonEscape (inner : Bool) : Utf8.Glyph → String
  | .stray _ => "\\ufffd"
  | .scalar code =>
      let c := Char.ofNat code
      if c == '"' then "\\\""
      else if c == '\\' then "\\\\"
      else if c == '\n' then "\\n"
      else if c == '\r' then "\\r"
      else if c == '\t' then "\\t"
      else if inner && code == 0x08 then "\\b"
      else if inner && code == 0x0C then "\\f"
      else if code < 0x20 then "\\u00" ++ Text.hexDigits 2 code
      else if code == 0x2028 || code == 0x2029 then "\\u" ++ Text.hexDigits 4 code
      else String.ofList [c]

def jsonText (inner : Bool) (text : String) : String :=
  "\"" ++ String.join ((Utf8.glyphsOfText text).map (jsonEscape inner)) ++ "\""

def asksForQuotes (c : Char) : Bool :=
  if c.toNat < 0x80 then c == ' ' || c == '=' || (c != '\\' && !isPlainInJson c)
  else c.toNat == 0xFFFD || !Unicode.isPrintable c.toNat

def plainText (text : String) : String :=
  if text.isEmpty || text.toList.any asksForQuotes then Text.quote text else text

mutual
def Value.bare : Value → String
  | .text value => value
  | .number value => toString value
  | .real value => Layout.general.write value
  | .flag value => if value then "true" else "false"
  | .nothing => "<nil>"
  | .list items => "[" ++ " ".intercalate (bareItems items) ++ "]"
  | .table entries => "map[" ++ " ".intercalate (bareEntries entries) ++ "]"

def bareItems : List Value → List String
  | [] => []
  | item :: rest => item.bare :: bareItems rest

def bareEntries : List (String × Value) → List String
  | [] => []
  | (key, value) :: rest => (key ++ ":" ++ value.bare) :: bareEntries rest
end

def Value.plain (value : Value) : String := plainText value.bare

def braced (parts : List String) : String := "\x7b" ++ ",".intercalate parts ++ "\x7d"

mutual
def Value.jsonAt (inner : Bool) : Value → String
  | .text value => jsonText inner value
  | .number value => toString value
  | .real value => Layout.json.write value
  | .flag value => if value then "true" else "false"
  | .nothing => "null"
  | .list items => "[" ++ ",".intercalate (jsonItems items) ++ "]"
  | .table entries => braced (jsonEntries entries)

def jsonItems : List Value → List String
  | [] => []
  | item :: rest => item.jsonAt true :: jsonItems rest

def jsonEntries : List (String × Value) → List String
  | [] => []
  | (key, value) :: rest => (jsonText true key ++ ":" ++ value.jsonAt true) :: jsonEntries rest
end

def Value.json (value : Value) : String := value.jsonAt false

namespace Entry

def all (entry : Entry) : List (String × Value) :=
  ("level", .text entry.level.name) :: ("msg", .text entry.message) :: entry.fields

def plainLine (entry : Entry) : String :=
  " ".intercalate (entry.all.map fun (key, value) => plainText key ++ "=" ++ value.plain) ++ "\n"

def jsonLine (entry : Entry) : String :=
  braced (entry.all.map fun (key, value) => jsonText false key ++ ":" ++ value.json) ++ "\n"

end Entry

namespace Handler

def standard : Handler := ⟨.info, false⟩

def enables (handler : Handler) (level : Level) : Bool := handler.threshold.severity ≤ level.severity

def enabled (handler : Handler) : List Level := Level.all.filter handler.enables

def line (handler : Handler) (entry : Entry) : String :=
  if handler.json then entry.jsonLine else entry.plainLine

def write (handler : Handler) (entries : List Entry) : String :=
  String.join ((entries.filter fun entry => handler.enables entry.level).map handler.line)

def ofEnvironment (environment : Settings.Environment) : Handler :=
  { threshold := .ofText (Settings.valueOf environment "OPTAB_LOG_LEVEL")
    json := (Settings.flagOfText? (trim (Settings.valueOf environment "OPTAB_LOG_JSON"))).getD false }

end Handler

end OpcodeTable.Log
