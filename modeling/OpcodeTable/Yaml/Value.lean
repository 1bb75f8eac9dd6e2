import OpcodeTable.Decimal.Shortest
import OpcodeTable.Text.Integer
import OpcodeTable.Word
import OpcodeTable.Yaml.Time

set_option autoImplicit false

namespace OpcodeTable.Yaml

open Decimal (Binary64 Layout)

inductive Value where
  | null
  | flag (value : Bool)
  | whole (number : Int)
  | real (number : Binary64)
  | time (moment : Time)
  | text (value : String)
  | list (items : List Value)
  | table (entries : List (String × Value))

namespace Scalar

def keywords : List (String × Value) :=
  ["", "~", "null", "Null", "NULL"].map (·, .null)
    ++ ["true", "True", "TRUE"].map (·, .flag true)
    ++ ["false", "False", "FALSE"].map (·, .flag false)
    ++ [".nan", ".NaN", ".NAN"].map (·, .real .undefined)
    ++ [".inf", ".Inf", ".INF", "+.inf", "+.Inf", "+.INF"].map (·, .real (.infinite false))
    ++ ["-.inf", "-.Inf", "-.INF"].map (·, .real (.infinite true))

def isSigned : List Char → Bool
  | c :: _ => c == '+' || c == '-'
  | [] => false

-- A number with a sign fits in 64 bits together with it, one without a sign may use them all.
def fits (text : List Char) (number : Int) : Bool :=
  Word.fits 64 number || (!isSigned text && 0 ≤ number && number < Word.span 64)

def whole? (text : List Char) : Option Int :=
  (Text.signed (fun digits => (Text.Numeral.of digits).value?) text).filter (fits text)

def marked? : List Char → Option Int
  | '0' :: 'b' :: digits => (Text.signed (Text.digits? 2) digits).filter (fits digits)
  | '0' :: 'o' :: digits => (Text.signed (Text.digits? 8) digits).filter (fits digits)
  | _ => none

def power? : List Char → Option Int
  | [] => some 0
  | mark :: rest =>
      if mark == 'e' || mark == 'E' then Text.signed (Text.digits? 10) rest else none

def isFinite : Binary64 → Bool
  | .finite _ _ _ => true
  | _ => false

def unsignedReal? (negative : Bool) (text : List Char) : Option Binary64 :=
  let before := text.takeWhile Char.isDigit
  let (after, rest) := match text.dropWhile Char.isDigit with
    | '.' :: rest => (rest.takeWhile Char.isDigit, rest.dropWhile Char.isDigit)
    | rest => ([], rest)
  match Text.digits? 10 (before ++ after), power? rest with
  | some digits, some power =>
      let number := Binary64.ofDecimal negative digits (power - after.length)
      if isFinite number then some number else none
  | _, _ => none

def real? : List Char → Option Binary64
  | '+' :: rest => unsignedReal? false rest
  | '-' :: rest => unsignedReal? true rest
  | text => unsignedReal? false text

def withoutUnderscores (text : List Char) : List Char := text.filter fun c => c != '_'

def dividesDigits : Bool → List Char → Bool
  | _, [] => true
  | afterDigit, '_' :: rest => afterDigit && (rest.headD ' ').isDigit && dividesDigits false rest
  | _, c :: rest => dividesDigits c.isDigit rest

def number? (text : String) : Option Value :=
  let plain := withoutUnderscores text.toList
  match whole? plain with
  | some number => some (.whole number)
  | none =>
      match real? plain with
      | some number => some (.real number)
      | none => (marked? plain).map .whole

def pointNumber? (text : String) : Option Value :=
  if dividesDigits false text.toList then (real? (withoutUnderscores text.toList)).map .real else none

-- Only the first character decides what a text may stand for besides itself. Points in time are
-- left out where another kind of value is asked for.
def resolve (timed : Bool) (text : String) : Value :=
  match keywords.lookup text with
  | some value => value
  | none =>
      let first := text.toList.headD ' '
      if first == '.' then (pointNumber? text).getD (.text text)
      else if first.isDigit || first == '+' || first == '-' then
        let time := if timed then (Time.ofChars? text.toList).map Value.time else none
        (time <|> number? text).getD (.text text)
      else .text text

end Scalar

mutual
def Value.display : Value → String
  | .null => "<nil>"
  | .flag value => if value then "true" else "false"
  | .whole number => toString number
  | .real number => Layout.general.write number
  | .time moment => moment.display
  | .text value => value
  | .list items => "[" ++ " ".intercalate (displayAll items) ++ "]"
  | .table entries =>
      let sorted := (displayEntries entries).mergeSort fun a b => a.1 ≤ b.1
      "map[" ++ " ".intercalate (sorted.map fun (key, value) => key ++ ":" ++ value) ++ "]"

def displayAll : List Value → List String
  | [] => []
  | item :: rest => item.display :: displayAll rest

def displayEntries : List (String × Value) → List (String × String)
  | [] => []
  | (key, value) :: rest => (key, value.display) :: displayEntries rest
end

end OpcodeTable.Yaml
