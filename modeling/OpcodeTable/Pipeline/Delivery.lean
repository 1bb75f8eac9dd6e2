import OpcodeTable.Sink.Record

set_option autoImplicit false

namespace OpcodeTable.Pipeline

open Sink (Record)

-- How sinks behave: `σ` is what one of them holds, `δ` what they all write to.
structure Behaviour (σ δ : Type) where
  push : Record → σ → δ → Option Fault × σ × δ
  close : σ → δ → Option Fault × σ × δ

-- A sink in its place. The records it accepted are held last one first.
structure Slot (σ : Type) where
  sink : σ
  accepted : List Record
  closes : Nat

structure Delivered (σ δ : Type) where
  fault : Option Fault
  slots : List (Slot σ)
  shared : δ

structure ClosedSlots (σ δ : Type) extends Delivered σ δ where
  places : List Nat

variable {σ δ : Type}

namespace Slot

def fresh (sink : σ) : Slot σ := ⟨sink, [], 0⟩

def records (slot : Slot σ) : List Record := slot.accepted.reverse

def accept (slot : Slot σ) (sink : σ) (record : Record) : Slot σ :=
  { slot with sink := sink, accepted := record :: slot.accepted }

def close (slot : Slot σ) (sink : σ) : Slot σ :=
  { slot with sink := sink, closes := slot.closes + 1 }

end Slot

def offer (behaviour : Behaviour σ δ) (record : Record) : List (Slot σ) → δ → Delivered σ δ
  | [], shared => ⟨none, [], shared⟩
  | slot :: rest, shared =>
      match behaviour.push record slot.sink shared with
      | (some fault, sink, after) => ⟨some fault, { slot with sink := sink } :: rest, after⟩
      | (none, sink, after) =>
          let others := offer behaviour record rest after
          { others with slots := slot.accept sink record :: others.slots }

def deliver (behaviour : Behaviour σ δ) : List Record → List (Slot σ) → δ → Delivered σ δ
  | [], slots, shared => ⟨none, slots, shared⟩
  | record :: rest, slots, shared =>
      let offered := offer behaviour record slots shared
      match offered.fault with
      | some _ => offered
      | none => deliver behaviour rest offered.slots offered.shared

def closeSlots (behaviour : Behaviour σ δ) : Nat → List (Slot σ) → δ → ClosedSlots σ δ
  | _, [], shared => ⟨⟨none, [], shared⟩, []⟩
  | place, slot :: rest, shared =>
      match behaviour.close slot.sink shared with
      | (fault, sink, after) =>
          let others := closeSlots behaviour (place + 1) rest after
          { fault := Fault.join [fault, others.fault]
            slots := slot.close sink :: others.slots
            shared := others.shared
            places := place :: others.places }

def numberedFrom : Nat → List Bytes → List Record
  | _, [] => []
  | seq, line :: rest => ⟨seq, line⟩ :: numberedFrom (seq + 1) rest

def numbered (rows : List Bytes) : List Record := numberedFrom 0 rows

end OpcodeTable.Pipeline
