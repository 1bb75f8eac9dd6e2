import OpcodeTable.Decimal.Binary64
import OpcodeTable.Text.Integer
import OpcodeTable.Word

set_option autoImplicit false

namespace OpcodeTable.Log

-- How severe an entry is. Four levels have a name; the others are named by their distance from the
-- next one below, and those below all of them by that from the lowest.
structure Level where
  severity : Int
deriving DecidableEq, Repr

namespace Level

def debug : Level := ⟨-4⟩
def info : Level := ⟨0⟩
def warn : Level := ⟨4⟩
def error : Level := ⟨8⟩

def all : List Level := [.debug, .info, .warn, .error]

def beyond (base : String) (distance : Int) : String :=
  if distance == 0 then base
  else base ++ (if distance < 0 then "" else "+") ++ toString distance

def name (level : Level) : String :=
  if level.severity < info.severity then beyond "DEBUG" (level.severity - debug.severity)
  else if level.severity < warn.severity then beyond "INFO" (level.severity - info.severity)
  else if level.severity < error.severity then beyond "WARN" (level.severity - warn.severity)
  else beyond "ERROR" (level.severity - error.severity)

def ofBase? (base : String) : Option Level :=
  all.find? fun level => level.name == base.toUpper

def ofName? (text : String) : Option Level :=
  let base := text.toList.takeWhile fun c => c != '+' && c != '-'
  let distance := text.toList.drop base.length
  match ofBase? (String.ofList base), distance with
  | some level, [] => some level
  | some level, _ =>
      ((Text.signed (Text.digits? 10) distance).filter (Word.fits 64)).map fun distance =>
        ⟨level.severity + distance⟩
  | none, _ => none

end Level

inductive Value where
  | text (value : String)
  | number (value : Int)
  | real (value : Decimal.Binary64)
  | flag (value : Bool)
  | nothing
  | list (items : List Value)
  | table (entries : List (String × Value))

structure Entry where
  level : Level
  message : String
  fields : List (String × Value)

end OpcodeTable.Log
