import OpcodeTable.Settings.Layer

/-!
A setting takes any value that can be read as one of its kind. A value that stands for nothing leaves the
setting as it was.
-/

set_option autoImplicit false

namespace OpcodeTable.Settings

open Decimal (Layout)
open Yaml (Value)

def asText : Value → Option String
  | .text value => some value
  | .flag value => some (if value then "1" else "0")
  | .whole number => some (toString number)
  | .real number => some (Layout.plain.write number)
  | .null | .time _ | .list _ | .table _ => none

-- A number keeps its lowest `bits` bits, while a text has to fit.
def asInteger (bits : Nat) : Value → Option Int
  | .whole number => some (Word.wrap bits number)
  | .real number => some (Word.wrap bits number.toInt64)
  | .flag value => some (if value then 1 else 0)
  | .text "" => some 0
  | .text value => (Text.integer? value).filter (Word.fits bits)
  | .null | .time _ | .list _ | .table _ => none

def flagTexts : List (String × Bool) :=
  ["1", "t", "T", "true", "TRUE", "True"].map (·, true)
    ++ ["0", "f", "F", "false", "FALSE", "False"].map (·, false)

def flagOfText? (text : String) : Option Bool := flagTexts.lookup text

def asFlag : Value → Option Bool
  | .flag value => some value
  | .whole number => some (number != 0)
  | .real number => some (!number.isZero)
  | .text "" => some false
  | .text value => flagOfText? value
  | .null | .time _ | .list _ | .table _ => none

def asItem : Value → Option String
  | .null => some ""
  | value => asText value

def asTexts : Value → Option (List String)
  | .list items => items.mapM asItem
  | .table [] => some []
  | value => (asText value).map ([·])

def foldLetter (c : Char) : Char :=
  if c.toNat == 0x17F then 's' else if c.toNat == 0x212A then 'k' else c.toLower

def sameLetters (first second : String) : Bool := first.map foldLetter == second.map foldLetter

-- A key spelled exactly goes before one that differs in case.
def find (layer : Layer) (name : String) : Option Value :=
  match layer.lookup name with
  | some value => some value
  | none => (layer.find? fun entry => sameLetters entry.1 name).map Prod.snd

def read {α : Type} (decode : Value → Option α) (unset : α) (layer : Layer) (name : String) :
    Except Fault α :=
  match find layer name with
  | none | some .null => .ok unset
  | some value =>
      match decode value with
      | some setting => .ok setting
      | none => .error .undecodable

def orDefault (fallback text : String) : String := if text == "" then fallback else text

def defaultVersion : String := "2.8.0"

def defaultClientId : String := "optab"

end OpcodeTable.Settings
