import OpcodeTable.Pipeline.Part

set_option autoImplicit false

namespace OpcodeTable.Sink

def rendered (counter : Bool) (record : Record) : Bytes :=
  (if counter then counterText record.seq else []) ++ record.line ++ [Bytes.newline]

namespace Device

def capacity (device : Device) : Option Nat := device.room.map (device.written.length + ·)

theorem capacity_unlimited (device : Device) : device.capacity = none ↔ device.room = none := by
  simp [capacity]

theorem written_piece (before after : Device) (piece : Bytes) (taken : after.pieces = piece :: before.pieces) :
    after.written = before.written ++ piece := by
  simp [written, taken]

structure Takes (before after : Device) (data : Bytes) : Prop where
  grows : before.pieces <:+ after.pieces
  capacity : after.capacity = before.capacity
  written : after.written = before.written ++ data

structure Fills (before after : Device) (data : Bytes) : Prop where
  grows : before.pieces <:+ after.pieces
  capacity : after.capacity = before.capacity
  start : after.written <+: before.written ++ data
  full : after.capacity = some after.written.length
  short : after.written.length < (before.written ++ data).length

theorem write_cases (device : Device) (data : Bytes) :
    (∃ after, device.write data = (none, after) ∧ device.Takes after data) ∨
      (∃ after, device.write data = (some device.fault, after) ∧ device.Fills after data) := by
  unfold write
  cases limited : device.room with
  | none =>
      refine Or.inl ⟨_, rfl, ⟨[data], rfl⟩, by simp [capacity, limited], ?_⟩
      exact device.written_piece _ data rfl
  | some room =>
      by_cases fits : data.length ≤ room
      · simp only [if_pos fits]
        have grown := device.written_piece
          { device with room := some (room - data.length), pieces := data :: device.pieces } data rfl
        refine Or.inl ⟨_, rfl, ⟨[data], rfl⟩, ?_, grown⟩
        simp only [capacity, grown, limited, Option.map_some, List.length_append, Option.some.injEq]
        omega
      · simp only [if_neg fits]
        have grown := device.written_piece
          { device with room := some 0, pieces := data.take room :: device.pieces } (data.take room) rfl
        have length : (data.take room).length = room := by
          rw [List.length_take]
          omega
        refine Or.inr ⟨_, rfl, ⟨[data.take room], rfl⟩, ?_, ?_, by simp [capacity], ?_⟩
        · simp only [capacity, grown, limited, Option.map_some, List.length_append, length, Nat.add_zero]
        · rw [grown]
          exact (List.prefix_append_right_inj _).mpr (List.take_prefix room data)
        · rw [grown, List.length_append, List.length_append, length]
          omega

end Device

namespace Writer

def contents (writer : Writer) : Bytes := writer.device.written ++ writer.held.reverse

-- `text` has been written so far. Unless the device failed all of it is there; if it did, the device is
-- full with the first part of it.
structure Carries (writer : Writer) (text : Bytes) : Prop where
  size : writer.size = writer.held.length
  start : writer.device.written <+: text
  whole : writer.fault = none → writer.contents = text
  full : writer.fault ≠ none →
    writer.device.capacity = some writer.device.written.length ∧ writer.device.written.length < text.length

structure Extends (before after : Writer) (text : Bytes) : Prop where
  carries : ∀ earlier, before.Carries earlier → after.Carries (earlier ++ text)
  stuck : before.fault ≠ none → after = before
  grows : before.device.pieces <:+ after.device.pieces
  capacity : after.device.capacity = before.device.capacity

theorem Extends.refl (writer : Writer) : Extends writer writer [] :=
  ⟨fun earlier carried => by rwa [List.append_nil], fun _ => rfl, List.suffix_refl _, rfl⟩

theorem Extends.trans {first second third : Writer} {one two : Bytes} (earlier : Extends first second one)
    (later : Extends second third two) : Extends first third (one ++ two) where
  carries text carried := by
    rw [← List.append_assoc]
    exact later.carries _ (earlier.carries _ carried)
  stuck failed := by
    have same := earlier.stuck failed
    rw [later.stuck (by rwa [same]), same]
  grows := earlier.grows.trans later.grows
  capacity := later.capacity.trans earlier.capacity

theorem Carries.drops {writer : Writer} {text : Bytes} (carried : writer.Carries text) (failed : writer.fault ≠ none)
    (more : Bytes) : writer.Carries (text ++ more) where
  size := carried.size
  start := carried.start.trans (List.prefix_append text more)
  whole working := absurd working failed
  full _ := by
    obtain ⟨full, short⟩ := carried.full failed
    refine ⟨full, ?_⟩
    rw [List.length_append]
    omega

theorem extends_failed (writer : Writer) (failed : writer.fault ≠ none) (text : Bytes) :
    Extends writer writer text :=
  ⟨fun _ carried => carried.drops failed text, fun _ => rfl, List.suffix_refl _, rfl⟩

theorem onto_carries (device : Device) : (onto device).Carries device.written where
  size := rfl
  start := List.prefix_refl _
  whole _ := List.append_nil _
  full failed := absurd rfl failed

theorem forward_extends (writer : Writer) (text : Bytes) (empty : writer.fault = none → writer.size = 0) :
    Extends writer (writer.forward text) text := by
  cases failed : writer.fault with
  | some fault =>
      have same : writer.forward text = writer := by simp [forward, failed]
      rw [same]
      exact writer.extends_failed (by simp [failed]) text
  | none =>
      have nothing (earlier : Bytes) (carried : writer.Carries earlier) : writer.held = [] :=
        List.eq_nil_of_length_eq_zero (carried.size.symm.trans (empty failed))
      have seen (earlier : Bytes) (carried : writer.Carries earlier) : writer.device.written = earlier := by
        have whole := carried.whole failed
        rwa [contents, nothing earlier carried, List.reverse_nil, List.append_nil] at whole
      rcases writer.device.write_cases text with ⟨after, taken, takes⟩ | ⟨after, refused, fills⟩
      · have forwarded : writer.forward text = { writer with device := after } := by
          simp [forward, failed, taken]
        rw [forwarded]
        refine ⟨?_, fun stuck => absurd failed stuck, takes.grows, takes.capacity⟩
        intro earlier carried
        have written := takes.written
        rw [seen earlier carried] at written
        refine ⟨carried.size, written ▸ List.prefix_refl _, ?_, fun stuck => absurd failed stuck⟩
        intro _
        rw [contents, nothing earlier carried, List.reverse_nil, List.append_nil, written]
      · have forwarded : writer.forward text = { writer with device := after, fault := some writer.device.fault } := by
          simp [forward, failed, refused]
        rw [forwarded]
        refine ⟨?_, fun stuck => absurd failed stuck, fills.grows, fills.capacity⟩
        intro earlier carried
        rw [← seen earlier carried]
        exact ⟨carried.size, fills.start, nofun, fun _ => ⟨fills.full, fills.short⟩⟩

theorem flush_empties (writer : Writer) (working : writer.flush.fault = none) : writer.flush.size = 0 := by
  revert working
  unfold flush
  split
  · rename_i failed
    intro working
    rw [failed] at working
    cases working
  · split
    · rename_i empty
      intro _
      exact empty
    · split
      · intro _
        rfl
      · intro working
        cases working

theorem flush_extends (writer : Writer) : Extends writer writer.flush [] := by
  cases failed : writer.fault with
  | some fault =>
      have same : writer.flush = writer := by simp [flush, failed]
      rw [same]
      exact .refl writer
  | none =>
      by_cases empty : writer.size = 0
      · have same : writer.flush = writer := by simp [flush, failed, empty]
        rw [same]
        exact .refl writer
      · rcases writer.device.write_cases writer.held.reverse with ⟨after, taken, takes⟩ | ⟨after, refused, fills⟩
        · have flushed : writer.flush = { writer with device := after, held := [], size := 0 } := by
            simp [flush, failed, empty, taken]
          rw [flushed]
          refine ⟨?_, fun stuck => absurd failed stuck, takes.grows, takes.capacity⟩
          intro earlier carried
          have written : after.written = earlier := takes.written.trans (carried.whole failed)
          rw [List.append_nil]
          refine ⟨rfl, written ▸ List.prefix_refl _, ?_, fun stuck => absurd failed stuck⟩
          intro _
          rw [contents, written, List.reverse_nil, List.append_nil]
        · have flushed : writer.flush = { writer with device := after, fault := some writer.device.fault } := by
            simp [flush, failed, empty, refused]
          rw [flushed]
          refine ⟨?_, fun stuck => absurd failed stuck, fills.grows, fills.capacity⟩
          intro earlier carried
          rw [List.append_nil, ← carried.whole failed]
          exact ⟨carried.size, fills.start, nofun, fun _ => ⟨fills.full, fills.short⟩⟩

theorem make_room_extends (writer : Writer) : Extends writer writer.makeRoom [] := by
  unfold makeRoom
  split
  · exact writer.flush_extends
  · exact .refl writer

theorem put_byte_extends (writer : Writer) (byte : UInt8) : Extends writer (writer.putByte byte) [byte] := by
  have roomy := writer.make_room_extends
  cases failed : writer.makeRoom.fault with
  | some fault =>
      have dropped : writer.putByte byte = writer.makeRoom := by simp [putByte, failed]
      rw [dropped]
      exact roomy.trans (writer.makeRoom.extends_failed (by simp [failed]) [byte])
  | none =>
      have held : writer.putByte byte =
          { writer.makeRoom with held := byte :: writer.makeRoom.held, size := writer.makeRoom.size + 1 } := by
        simp [putByte, failed]
      rw [held]
      refine roomy.trans ⟨?_, fun stuck => absurd failed stuck, List.suffix_refl _, rfl⟩
      intro earlier carried
      refine ⟨?_, carried.start.trans (List.prefix_append _ _), ?_, fun stuck => absurd failed stuck⟩
      · rw [List.length_cons, carried.size]
      · intro _
        rw [← carried.whole failed]
        simp [contents]

theorem put_extends (writer : Writer) (data : Bytes) : Extends writer (writer.put data) data := by
  induction data generalizing writer with
  | nil => exact .refl writer
  | cons byte rest ih => exact (writer.put_byte_extends byte).trans (ih (writer.putByte byte))

theorem put_text_extends (writer : Writer) (text : Bytes) : Extends writer (writer.putText text) text := by
  unfold putText
  split
  · have filled := writer.put_extends (text.take writer.filling)
    have emptied := filled.trans (writer.put (text.take writer.filling)).flush_extends
    have forwarded := emptied.trans (forward_extends _ (text.drop writer.filling) (flush_empties _))
    rwa [List.append_nil, List.take_append_drop] at forwarded
  · exact writer.put_extends text

theorem Carries.working {writer : Writer} {text : Bytes} (carried : writer.Carries text)
    (unlimited : writer.device.room = none) : writer.fault = none := by
  cases failed : writer.fault with
  | none => rfl
  | some fault =>
      obtain ⟨full, _⟩ := carried.full (by simp [failed])
      rw [(Device.capacity_unlimited writer.device).mpr unlimited] at full
      cases full

theorem Extends.unlimited {before after : Writer} {text : Bytes} (extended : Extends before after text)
    (unlimited : before.device.room = none) : after.device.room = none := by
  rw [← Device.capacity_unlimited, extended.capacity]
  exact (Device.capacity_unlimited _).mpr unlimited

theorem flush_written (writer : Writer) (text : Bytes) (carried : writer.Carries text)
    (working : writer.flush.fault = none) : writer.flush.device.written = text := by
  have flushed := writer.flush_extends.carries text carried
  have nothing : writer.flush.held = [] :=
    List.eq_nil_of_length_eq_zero (flushed.size.symm.trans (writer.flush_empties working))
  have whole := flushed.whole working
  rwa [contents, nothing, List.reverse_nil, List.append_nil, List.append_nil] at whole

end Writer

namespace Console

theorem push_extends (console : Console) (record : Record) :
    Writer.Extends console.writer (console.push record).2.writer (rendered console.counter record) := by
  have counted : Writer.Extends console.writer
      (if console.counter then console.writer.put (counterText record.seq) else console.writer)
      (if console.counter then counterText record.seq else []) := by
    split
    · exact console.writer.put_extends _
    · exact .refl _
  exact (counted.trans (Writer.put_text_extends _ record.line)).trans (Writer.put_byte_extends _ Bytes.newline)

theorem close_extends (console : Console) : Writer.Extends console.writer console.close.2.writer [] :=
  console.writer.flush_extends

def facing (console : Console) (device : Device) : Writer := { console.writer with device := device }

end Console

end OpcodeTable.Sink

namespace OpcodeTable.Pipeline

open Sink (Record Device Console)

namespace RowSink

theorem push_console (console : Console) (device : Device) (record : Record) (text : Bytes)
    (unlimited : device.room = none) (carried : (console.facing device).Carries text) :
    ∃ after : Console, push record (.console console) device = (none, .console after, after.writer.device) ∧
      after.counter = console.counter ∧ after.writer.device.room = none ∧
      (after.facing after.writer.device).Carries (text ++ Sink.rendered console.counter record) := by
  have extended := Console.push_extends ⟨console.counter, console.facing device⟩ record
  have written := extended.carries text carried
  have room := extended.unlimited unlimited
  have working := written.working room
  refine ⟨(Console.push ⟨console.counter, console.facing device⟩ record).2, ?_, rfl, room, written⟩
  have reply : (Console.push ⟨console.counter, console.facing device⟩ record).1 = none := working
  rw [← reply]
  rfl

theorem close_console (console : Console) (device : Device) (text : Bytes) (unlimited : device.room = none)
    (carried : (console.facing device).Carries text) :
    ∃ sink after, close (.console console) device = (none, sink, after) ∧ after.written = text := by
  have flushed := (console.facing device).flush_extends
  have working := (flushed.carries text carried).working (flushed.unlimited unlimited)
  refine ⟨.console ⟨console.counter, (console.facing device).flush⟩, (console.facing device).flush.device, ?_,
    (console.facing device).flush_written text carried working⟩
  rw [← working]
  rfl

end RowSink

def Printing (slots : List (Slot RowSink)) (device : Device) (counter : Bool) (contents : Bytes) : Prop :=
  ∃ slot console, slots = [slot] ∧ slot.sink = .console console ∧ console.counter = counter ∧
    device.room = none ∧ (console.facing device).Carries contents

theorem offer_printing (record : Record) (slots : List (Slot RowSink)) (device : Device) (counter : Bool)
    (contents : Bytes) (printing : Printing slots device counter contents) :
    (offer RowSink.behaviour record slots device).fault = none ∧
      Printing (offer RowSink.behaviour record slots device).slots
        (offer RowSink.behaviour record slots device).shared counter
        (contents ++ Sink.rendered counter record) := by
  obtain ⟨slot, console, rfl, holds, rfl, unlimited, carried⟩ := printing
  obtain ⟨after, pushed, same, room, written⟩ := RowSink.push_console console device record contents unlimited carried
  have offered : offer RowSink.behaviour record [slot] device =
      ⟨none, [slot.accept (.console after) record], after.writer.device⟩ := by
    simp only [offer, RowSink.behaviour, holds, pushed]
  rw [offered]
  exact ⟨rfl, ⟨slot.accept (.console after) record, after, rfl, rfl, same, room, written⟩⟩

theorem deliver_printing (records : List Record) (slots : List (Slot RowSink)) (device : Device) (counter : Bool)
    (contents : Bytes) (printing : Printing slots device counter contents) :
    (deliver RowSink.behaviour records slots device).fault = none ∧
      Printing (deliver RowSink.behaviour records slots device).slots
        (deliver RowSink.behaviour records slots device).shared counter
        (contents ++ records.flatMap (Sink.rendered counter)) := by
  induction records generalizing slots device contents with
  | nil => exact ⟨rfl, by simpa [deliver] using printing⟩
  | cons record rest ih =>
      obtain ⟨fault, next⟩ := offer_printing record slots device counter contents printing
      have continued := ih _ _ _ next
      rw [deliver]
      simp only [fault, List.flatMap_cons, ← List.append_assoc]
      exact continued

theorem close_printing (place : Nat) (slots : List (Slot RowSink)) (device : Device) (counter : Bool)
    (contents : Bytes) (printing : Printing slots device counter contents) :
    (closeSlots RowSink.behaviour place slots device).fault = none ∧
      (closeSlots RowSink.behaviour place slots device).shared.written = contents := by
  obtain ⟨slot, console, rfl, holds, _, unlimited, carried⟩ := printing
  obtain ⟨sink, after, closed, whole⟩ := RowSink.close_console console device contents unlimited carried
  simp only [closeSlots, RowSink.behaviour, holds, closed, Fault.join]
  exact ⟨trivial, whole⟩

end OpcodeTable.Pipeline
