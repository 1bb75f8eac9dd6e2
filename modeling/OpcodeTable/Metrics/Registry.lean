import OpcodeTable.Batch
import OpcodeTable.Decimal.Binary64

/-!
A counter remembers every amount added to it, so that its exact total and the double that stands for it
can both be told.
-/

set_option autoImplicit false

namespace OpcodeTable.Metrics

open Decimal (Binary64)

structure Counter where
  added : List Nat
deriving DecidableEq, Repr

namespace Counter

def zero : Counter := ⟨[]⟩

def total (counter : Counter) : Nat := counter.added.foldr (· + ·) 0

def add (counter : Counter) (amount : Nat) : Counter := ⟨amount :: counter.added⟩

def add? (counter : Counter) (amount : Int) : Option Counter :=
  if amount < 0 then none else some (counter.add amount.toNat)

def nearest (amount : Nat) : Nat := ((Binary64.ofInt amount).truncate?.getD 0).toNat

-- Each amount is taken as a double, and the whole numbers among them are summed up in 64 bits.
def reading (counter : Counter) : Binary64 :=
  .ofInt (((counter.added.map nearest).foldr (· + ·) 0 % Word.span 64 : Nat) : Int)

end Counter

structure Sample where
  read : Int
  written : Int
  vector : Int
  dropped : List (String × Int)
deriving DecidableEq, Repr

def Sample.ofTally (tally : Tally) : Sample :=
  { read := tally.read
    written := tally.written
    vector := tally.vector
    dropped := tally.reasons.map fun (reason, count) => (reason.name, count) }

def Sample.droppedTotal (sample : Sample) : Int :=
  Word.wrap 64 ((sample.dropped.map Prod.snd).foldr (· + ·) 0)

structure Moment where
  unix : Int
  elapsed : Int

def billion : Nat := 1000000000

def seconds (nanoseconds : Int) : Binary64 :=
  let rest := nanoseconds.tmod billion
  (Binary64.ofInt (nanoseconds.tdiv billion)).add (.ofRatio (rest < 0) rest.natAbs billion)

structure Registry where
  read : Counter
  written : Counter
  vector : Counter
  dropped : List (String × Counter)
  duration : Binary64
  lastSuccess : Binary64

namespace Registry

def start : Registry :=
  { read := .zero
    written := .zero
    vector := .zero
    dropped := [("empty", .zero), ("leading_char", .zero), ("rex_prefix", .zero)]
    duration := .zero
    lastSuccess := .zero }

def counterOf (reason : String) : List (String × Counter) → Counter
  | [] => .zero
  | (name, counter) :: rest => if name == reason then counter else counterOf reason rest

def setCounter (reason : String) (counter : Counter) : List (String × Counter) → List (String × Counter)
  | [] => [(reason, counter)]
  | (name, old) :: rest =>
      if name == reason then (name, counter) :: rest else (name, old) :: setCounter reason counter rest

def droppedBy (registry : Registry) (reason : String) : Nat := (counterOf reason registry.dropped).total

def droppedTotal (registry : Registry) : Nat :=
  (registry.dropped.map fun entry => entry.2.total).foldr (· + ·) 0

-- A reason that is counted for the first time is entered even if its count is then refused.
def drop (registry : Registry) (reason : String) (amount : Int) : Option Fault × Registry :=
  let counter := counterOf reason registry.dropped
  match counter.add? amount with
  | none => (some .misuse, { registry with dropped := setCounter reason counter registry.dropped })
  | some more => (none, { registry with dropped := setCounter reason more registry.dropped })

def dropAll : List (String × Int) → Registry → Option Fault × Registry
  | [], registry => (none, registry)
  | (reason, amount) :: rest, registry =>
      match registry.drop reason amount with
      | (some fault, after) => (some fault, after)
      | (none, after) => dropAll rest after

def stamp (registry : Registry) (moment : Moment) : Registry :=
  { registry with duration := seconds moment.elapsed, lastSuccess := seconds moment.unix }

def observe (registry : Registry) (sample : Sample) (moment : Moment) : Option Fault × Registry :=
  match registry.read.add? sample.read with
  | none => (some .misuse, registry)
  | some read =>
      let registry := { registry with read := read }
      match registry.written.add? sample.written with
      | none => (some .misuse, registry)
      | some written =>
          let registry := { registry with written := written }
          match registry.vector.add? sample.vector with
          | none => (some .misuse, registry)
          | some vector =>
              match dropAll sample.dropped { registry with vector := vector } with
              | (some fault, after) => (some fault, after)
              | (none, after) => (none, after.stamp moment)

end Registry

end OpcodeTable.Metrics
