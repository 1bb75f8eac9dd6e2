set_option autoImplicit false

namespace OpcodeTable.Text

def digitValue? (c : Char) : Option Nat :=
  if '0' ≤ c ∧ c ≤ '9' then some (c.toNat - 48)
  else if 'a' ≤ c ∧ c ≤ 'z' then some (c.toNat - 87)
  else if 'A' ≤ c ∧ c ≤ 'Z' then some (c.toNat - 55)
  else none

def digitsFrom (base : Nat) : List Char → Nat → Option Nat
  | [], value => some value
  | c :: rest, value =>
      match digitValue? c with
      | some digit => if digit < base then digitsFrom base rest (value * base + digit) else none
      | none => none

def digits? (base : Nat) (text : List Char) : Option Nat :=
  if text.isEmpty then none else digitsFrom base text 0

-- The digits of a number and the base they are in. A leading zero alone marks base 8.
structure Numeral where
  base : Nat
  marked : Bool
  digits : List Char

def baseOfMark (mark : Char) : Option Nat :=
  if mark == 'b' || mark == 'B' then some 2
  else if mark == 'o' || mark == 'O' then some 8
  else if mark == 'x' || mark == 'X' then some 16
  else none

def Numeral.of : List Char → Numeral
  | ['0'] => ⟨10, false, ['0']⟩
  | '0' :: mark :: rest =>
      match baseOfMark mark with
      | some base => if rest.isEmpty then ⟨8, true, mark :: rest⟩ else ⟨base, true, rest⟩
      | none => ⟨8, true, mark :: rest⟩
  | text => ⟨10, false, text⟩

def Numeral.value? (numeral : Numeral) : Option Nat := digits? numeral.base numeral.digits

-- Every underscore stands between two digits, or between the mark of the base and a digit.
def separated : Bool → List Char → Bool
  | afterDigit, [] => afterDigit
  | afterDigit, c :: rest => if c == '_' then afterDigit && separated false rest else separated true rest

def signed (read : List Char → Option Nat) : List Char → Option Int
  | '+' :: rest => (read rest).map Int.ofNat
  | '-' :: rest => (read rest).map fun value => -(value : Int)
  | text => (read text).map Int.ofNat

def unsigned? (text : List Char) : Option Nat :=
  let numeral := Numeral.of text
  if numeral.digits.contains '_' then
    if separated numeral.marked numeral.digits then
      { numeral with digits := numeral.digits.filter fun c => c != '_' }.value?
    else none
  else numeral.value?

def integer? (text : String) : Option Int := signed unsigned? text.toList

end OpcodeTable.Text
