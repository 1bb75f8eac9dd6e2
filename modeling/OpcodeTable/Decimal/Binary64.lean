import OpcodeTable.Word

/-!
Double-precision numbers as exact values. Every operation gives the exact result, rounded to the nearest
such number, a tie to the even one.
-/

set_option autoImplicit false

namespace OpcodeTable.Decimal

inductive Binary64 where
  -- The value is `significand * 2 ^ exponent`, with the sign apart so that zero has two.
  | finite (negative : Bool) (significand : Nat) (exponent : Int)
  | infinite (negative : Bool)
  | undefined
deriving DecidableEq, Repr

namespace Binary64

def leastExponent : Int := -1074
def greatestExponent : Int := 971

def zero : Binary64 := .finite false 0 leastExponent

def inUnits (numerator denominator : Nat) (exponent : Int) : Nat × Nat :=
  if 0 ≤ exponent then (numerator, denominator * Nat.pow 2 exponent.toNat)
  else (numerator * Nat.pow 2 (-exponent).toNat, denominator)

def roundHalfEven (numerator denominator : Nat) : Nat :=
  let quotient := numerator / denominator
  let twice := 2 * (numerator % denominator)
  if twice < denominator then quotient
  else if denominator < twice then quotient + 1
  else quotient + quotient % 2

def exponentOf (numerator denominator : Nat) : Int :=
  let guess : Int := (numerator.log2 : Int) - denominator.log2 - 53
  let scaled := inUnits numerator denominator guess
  let exact := if scaled.1 / scaled.2 < Nat.pow 2 53 then guess else guess + 1
  max exact leastExponent

def pack (negative : Bool) (significand : Nat) (exponent : Int) : Binary64 :=
  let (significand, exponent) :=
    if significand = Nat.pow 2 53 then (Nat.pow 2 52, exponent + 1) else (significand, exponent)
  if greatestExponent < exponent then .infinite negative
  else .finite negative significand exponent

def ofRatio (negative : Bool) (numerator denominator : Nat) : Binary64 :=
  if numerator = 0 then .finite negative 0 leastExponent
  else
    let exponent := exponentOf numerator denominator
    let scaled := inUnits numerator denominator exponent
    pack negative (roundHalfEven scaled.1 scaled.2) exponent

def ofInt (number : Int) : Binary64 := ofRatio (number < 0) number.natAbs 1

-- `digits * 10 ^ power`. Powers far out of range are settled without being computed.
def ofDecimal (negative : Bool) (digits : Nat) (power : Int) : Binary64 :=
  if digits = 0 then .finite negative 0 leastExponent
  else if 400 < power then .infinite negative
  else if 0 ≤ power then ofRatio negative (digits * Nat.pow 10 power.toNat) 1
  else if power < -(400 + (Nat.toDigits 10 digits).length : Int) then .finite negative 0 leastExponent
  else ofRatio negative digits (Nat.pow 10 (-power).toNat)

def scaled : Binary64 → Int
  | .finite negative significand exponent =>
      let magnitude : Int := (significand * Nat.pow 2 (exponent - leastExponent).toNat : Nat)
      if negative then -magnitude else magnitude
  | _ => 0

def isNegative : Binary64 → Bool
  | .finite negative _ _ => negative
  | .infinite negative => negative
  | .undefined => false

def add (first second : Binary64) : Binary64 :=
  match first, second with
  | .finite _ _ _, .finite _ _ _ =>
      let sum := first.scaled + second.scaled
      if sum = 0 then .finite (first.isNegative && second.isNegative) 0 leastExponent
      else ofRatio (sum < 0) sum.natAbs (Nat.pow 2 1074)
  | .infinite negative, .infinite other => if negative == other then first else .undefined
  | .infinite _, .finite _ _ _ => first
  | .finite _ _ _, .infinite _ => second
  | _, _ => .undefined

def isZero : Binary64 → Bool
  | .finite _ significand _ => significand == 0
  | _ => false

def truncate? : Binary64 → Option Int
  | .finite negative significand exponent =>
      let magnitude : Nat :=
        if 0 ≤ exponent then significand * Nat.pow 2 exponent.toNat
        else significand / Nat.pow 2 (-exponent).toNat
      some (if negative then -(magnitude : Int) else magnitude)
  | _ => none

-- A whole number that does not fit in 64 bits becomes the least one that does.
def toInt64 (number : Binary64) : Int :=
  match number.truncate? with
  | some whole => if Word.fits 64 whole then whole else -Word.bound 64
  | none => -Word.bound 64

end Binary64

end OpcodeTable.Decimal
