import OpcodeTable.Decimal.Binary64

set_option autoImplicit false

namespace OpcodeTable.Decimal

-- The digits of a positive number, the first one standing before the point, times a power of ten.
structure Digits where
  digits : List Char
  exponent : Int
deriving DecidableEq, Repr

structure Interval where
  low : Nat
  value : Nat
  high : Nat
  denominator : Nat
  closed : Bool

def intervalOf (significand : Nat) (exponent : Int) : Interval :=
  let below := if significand = Nat.pow 2 52 ∧ Binary64.leastExponent < exponent then 1 else 2
  let up := (exponent - 2).toNat
  let down := (2 - exponent).toNat
  { low := (4 * significand - below) * Nat.pow 2 up
    value := 4 * significand * Nat.pow 2 up
    high := (4 * significand + 2) * Nat.pow 2 up
    denominator := Nat.pow 2 down
    closed := significand % 2 == 0 }

def leadingPower (numerator denominator : Nat) : Int :=
  if denominator ≤ numerator then ((Nat.toDigits 10 (numerator / denominator)).length : Int) - 1
  else
    let length := (Nat.toDigits 10 (denominator / numerator)).length
    if denominator ≤ numerator * Nat.pow 10 (length - 1) then 1 - (length : Int) else -(length : Int)

namespace Interval

def holds (interval : Interval) (multiple : Nat) (power : Int) : Bool :=
  let point := multiple * Nat.pow 10 power.toNat * interval.denominator
  let low := interval.low * Nat.pow 10 (-power).toNat
  let high := interval.high * Nat.pow 10 (-power).toNat
  if interval.closed then low ≤ point && point ≤ high else low < point && point < high

def nearest? (interval : Interval) (power : Int) : Option Nat :=
  let numerator := interval.value * Nat.pow 10 (-power).toNat
  let denominator := interval.denominator * Nat.pow 10 power.toNat
  let floor := numerator / denominator
  let twice := 2 * (numerator % denominator)
  let (first, second) :=
    if twice < denominator ∨ (twice = denominator ∧ floor % 2 = 0) then (floor, floor + 1)
    else (floor + 1, floor)
  if interval.holds first power then some first
  else if interval.holds second power then some second
  else none

-- Tries grids of 17 − `left` digits and more.
def search (interval : Interval) (leading : Int) : Nat → Nat × Int
  | 0 => (interval.value / interval.denominator, 0)
  | left + 1 =>
      let power := leading - (16 - left : Nat)
      match interval.nearest? power with
      | some multiple => (multiple, power)
      | none => interval.search leading left

end Interval

def stripZeros (digits : List Char) : List Char :=
  (digits.reverse.dropWhile fun digit => digit == '0').reverse

def shortest (significand : Nat) (exponent : Int) : Digits :=
  let interval := intervalOf significand exponent
  let leading := leadingPower interval.value interval.denominator
  let (multiple, power) := interval.search leading 17
  let written := Nat.toDigits 10 multiple
  ⟨stripZeros written, power + written.length - 1⟩

namespace Digits

def positional (number : Digits) : String :=
  let count := number.digits.length
  if number.exponent < 0 then
    "0." ++ String.ofList (List.replicate ((-number.exponent).toNat - 1) '0' ++ number.digits)
  else
    let whole := number.exponent.toNat + 1
    if count ≤ whole then
      String.ofList (number.digits ++ List.replicate (whole - count) '0')
    else String.ofList (number.digits.take whole ++ '.' :: number.digits.drop whole)

def withPower (number : Digits) (width : Nat) : String :=
  let fraction := match number.digits.drop 1 with
    | [] => []
    | rest => '.' :: rest
  let power := Nat.toDigits 10 number.exponent.natAbs
  let sign := if number.exponent < 0 then '-' else '+'
  String.ofList (number.digits.take 1 ++ fraction ++ 'e' :: sign
    :: List.replicate (width - power.length) '0' ++ power)

end Digits

structure Layout where
  least : Int
  most : Int
  positivePowerWidth : Nat
  negativePowerWidth : Nat

namespace Layout

-- Metrics, log lines and schema versions.
def general : Layout := ⟨-4, 6, 2, 2⟩

-- Log lines that are JSON objects.
def json : Layout := ⟨-6, 21, 2, 1⟩

-- Settings that stand for a text.
def plain : Layout := ⟨-400, 400, 2, 2⟩

def writeDigits (layout : Layout) (number : Digits) : String :=
  if layout.least ≤ number.exponent ∧ number.exponent < layout.most then number.positional
  else if number.exponent < 0 then number.withPower layout.negativePowerWidth
  else number.withPower layout.positivePowerWidth

def write (layout : Layout) : Binary64 → String
  | .undefined => "NaN"
  | .infinite negative => if negative then "-Inf" else "+Inf"
  | .finite negative significand exponent =>
      (if negative then "-" else "")
        ++ if significand = 0 then "0" else layout.writeDigits (shortest significand exponent)

end Layout

end OpcodeTable.Decimal
