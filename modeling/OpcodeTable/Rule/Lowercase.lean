import OpcodeTable.Rule.Casing

/-!
Lower-casing as a row goes through it, portion by portion. A portion starts outside of any word, whatever
the one before it ended with, and what is written for it is held in a buffer of limited room.
-/

set_option autoImplicit false

namespace OpcodeTable.Rule

open Utf8 (Glyph)

inductive Rune where
  | whole (code : Nat)
  | broken (lead : UInt8) (tails : Bytes) (few : tails.length ≤ 3)
deriving DecidableEq

namespace Rune

def glyphs : Rune → List Glyph
  | whole code => [.scalar code]
  | broken lead tails _ => .stray lead :: tails.map .stray

def bytes (rune : Rune) : Bytes := Utf8.encode rune.glyphs

def size (rune : Rune) : Nat := rune.bytes.length

def sought : Rune → Nat
  | whole code => (Utf8.encodeScalar code).length
  | broken lead _ _ => Utf8.sought lead

-- Bytes that are no character count as their first one does: they have no case and end a word.
def head : Rune → Glyph
  | whole code => .scalar code
  | broken lead _ _ => .stray lead

end Rune

def brokenTails (lead : UInt8) (rest : Bytes) : Bytes :=
  let next := rest.take (Utf8.sought lead - 1)
  if next.length + 1 = Utf8.sought lead then next.takeWhile Utf8.isTail else []

theorem broken_tails_few (lead : UInt8) (rest : Bytes) : (brokenTails lead rest).length ≤ 3 := by
  have few : Utf8.sought lead ≤ 4 := by
    unfold Utf8.sought
    repeat' split
    all_goals decide
  simp only [brokenTails]
  split
  · have inside := (List.takeWhile_prefix Utf8.isTail (l := rest.take (Utf8.sought lead - 1))).length_le
    rw [List.length_take] at inside
    omega
  · exact Nat.zero_le 3

def runesFrom : Nat → Bytes → List Rune → List Rune
  | _, [], done => done.reverse
  | skip + 1, _ :: rest, done => runesFrom skip rest done
  | 0, byte :: rest, done =>
      match Utf8.headScalar byte rest with
      | some (code, more) => runesFrom more rest (.whole code :: done)
      | none =>
          runesFrom (brokenTails byte rest).length rest
            (.broken byte (brokenTails byte rest) (broken_tails_few byte rest) :: done)

def runes (row : Bytes) : List Rune := runesFrom 0 row []

def portionSize : Nat := 128

def portion : Nat → List Rune → List Rune
  | _, [] => []
  | space, rune :: rest =>
      if rune.sought ≤ space then rune :: portion (space - rune.size) rest else []

-- Why a call ends before the portion does: the next portion is needed, or more room.
inductive Stop where
  | cut
  | full
deriving DecidableEq, Repr

def sigmaForm (closed : Bool) : Nat → Nat → List Rune → Except Stop Nat
  | 0, _, _ => .ok finalSigma
  | _ + 1, _, [] => if closed then .ok finalSigma else .error .cut
  | reach + 1, room, rune :: rest =>
      if isCaseIgnorable rune.head then
        if rune.size ≤ room then sigmaForm closed reach (room - rune.size) rest else .error .full
      else .ok (if isCased rune.head then smallSigma else finalSigma)

def fit (room : Nat) (text : List Glyph) : Except Stop (List Glyph) :=
  if (Utf8.encode text).length ≤ room then .ok text else .error .full

def lowerRune (closed inWord : Bool) (room : Nat) (rune : Rune) (rest : List Rune) :
    Except Stop (List Glyph) :=
  if !staysInWord inWord rune.head then fit room rune.glyphs
  else if inWord && rune.head == .scalar capitalSigma then do
    let final ← fit room [.scalar finalSigma]
    let form ← sigmaForm closed sigmaReach (room - (Utf8.encode final).length) rest
    return [.scalar form]
  else fit room (lowerGlyph rune.head)

structure Call where
  read : List Rune
  written : List Glyph
  short : Bool

namespace Call

def sizeRead (call : Call) : Nat := (call.read.flatMap Rune.bytes).length

def sizeWritten (call : Call) : Nat := (Utf8.encode call.written).length

def unchanged (call : Call) : Bool := Utf8.encode call.written == call.read.flatMap Rune.bytes

end Call

def convert (closed : Bool) : Bool → Nat → List Rune → Call
  | _, _, [] => ⟨[], [], false⟩
  | inWord, room, rune :: rest =>
      match lowerRune closed inWord room rune rest with
      | .error stop => ⟨[], [], stop == .full⟩
      | .ok text =>
          let later := convert closed (staysInWord inWord rune.head) (room - (Utf8.encode text).length) rest
          ⟨rune :: later.read, text ++ later.written, later.short⟩

-- A capacity is settled as soon as a call has changed its text or was short of room.
structure Buffer where
  left : Nat
  used : Nat
  capacity : Option Nat

namespace Buffer

def room (buffer : Buffer) : Nat :=
  match buffer.capacity with
  | none => portionSize
  | some capacity => capacity - buffer.used

def call (buffer : Buffer) (text : List Rune) : Call :=
  if buffer.left ≤ portionSize then convert true false buffer.room text
  else convert false false buffer.room (portion portionSize text)

def grow (capacity : Nat) : Nat :=
  if capacity ≤ 32 then 64 else if capacity ≤ 256 then 2 * capacity else capacity + capacity / 2

def grown (buffer : Buffer) : Buffer := { buffer with capacity := buffer.capacity.map grow }

def after (whole : Nat) (buffer : Buffer) (call : Call) : Buffer :=
  let used := buffer.used + call.sizeWritten
  let settled : Nat := if used ≤ portionSize then portionSize else whole + call.sizeWritten - call.sizeRead
  { left := buffer.left - call.sizeRead
    used
    capacity :=
      match buffer.capacity with
      | some capacity => some capacity
      | none => if call.unchanged && !call.short then none else some settled }

def next (whole : Nat) (buffer : Buffer) (text : List Rune) : Call × Buffer :=
  let first := buffer.call text
  if first.short && first.written.isEmpty then
    let again := buffer.grown.call text
    (again, buffer.grown.after whole again)
  else (first, buffer.after whole first)

end Buffer

-- Calls, one after the other; the first argument counts the runes already read.
def lowerPortions (whole : Nat) : Nat → Buffer → List Rune → List Glyph
  | _, _, [] => []
  | skip + 1, buffer, _ :: rest => lowerPortions whole skip buffer rest
  | 0, buffer, rune :: rest =>
      let (call, after) := buffer.next whole (rune :: rest)
      call.written ++ lowerPortions whole (call.read.length - 1) after rest

def lowercase (row : Bytes) : Bytes :=
  Utf8.encode (lowerPortions row.length 0 ⟨row.length, 0, none⟩ (runes row))

end OpcodeTable.Rule
