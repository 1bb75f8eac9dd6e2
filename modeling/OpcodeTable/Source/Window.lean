import OpcodeTable.Bytes
import OpcodeTable.Fault

set_option autoImplicit false

namespace OpcodeTable.Source

structure Stream where
  chunks : List Bytes
  ending : Option Fault

namespace Stream

def empty : Stream := ⟨[], none⟩

def size (stream : Stream) : Nat := (stream.chunks.map fun chunk => chunk.length + 1).foldr (· + ·) 0

def read (room : Nat) (stream : Stream) : Option (Bytes × Stream) :=
  match stream.chunks with
  | [] => none
  | chunk :: rest =>
      match chunk.drop room with
      | [] => some (chunk, { stream with chunks := rest })
      | left => some (chunk.take room, { stream with chunks := left :: rest })

theorem read_size (room : Nat) (stream rest : Stream) (data : Bytes) (positive : 0 < room)
    (delivered : stream.read room = some (data, rest)) : rest.size < stream.size := by
  unfold read at delivered
  cases chunksEq : stream.chunks with
  | nil => simp [chunksEq] at delivered
  | cons chunk tail =>
      simp only [chunksEq] at delivered
      cases left : chunk.drop room with
      | nil =>
          simp only [left, Option.some.injEq, Prod.mk.injEq] at delivered
          obtain ⟨-, rfl⟩ := delivered
          simp [size, chunksEq]
      | cons byte more =>
          simp only [left, Option.some.injEq, Prod.mk.injEq] at delivered
          obtain ⟨-, rfl⟩ := delivered
          have lengths := congrArg List.length left
          simp only [List.length_drop, List.length_cons] at lengths
          simp only [size, chunksEq, List.map_cons, List.foldr_cons, List.length_cons]
          omega

def chunksOf (chunk : Nat) (data : Bytes) : List Bytes :=
  if chunk = 0 then if data.isEmpty then [] else [data]
  else cut data []
where
  cut (left : Bytes) (done : List Bytes) : List Bytes :=
    match left with
    | [] => done.reverse
    | byte :: rest =>
        cut (rest.drop (chunk - 1)) ((byte :: rest.take (chunk - 1)) :: done)
  termination_by left.length

def ofData (chunk : Nat) (data : Bytes) (ending : Option Fault) : Stream :=
  ⟨chunksOf chunk data, ending⟩

end Stream

-- What has been read of a stream. `start` bytes before it have been handed on but still take room;
-- `seen` holds the bytes in which no newline was found, last one first, and `fresh` the bytes after
-- them.
structure Window where
  start : Nat
  seen : Bytes
  seenSize : Nat
  fresh : Bytes
  capacity : Nat

namespace Window

def initial (limit : Nat) : Window := ⟨0, [], 0, [], min 65536 limit⟩

def takeLine (window : Window) : Option Bytes × Window :=
  let before := window.fresh.takeWhile fun byte => byte != Bytes.newline
  match window.fresh.dropWhile fun byte => byte != Bytes.newline with
  | [] =>
      (none, { window with
        seen := before.reverseAux window.seen
        seenSize := window.seenSize + before.length
        fresh := [] })
  | _ :: after =>
      (some (window.seen.reverse ++ before),
        { window with
          start := window.start + window.seenSize + before.length + 1
          seen := []
          seenSize := 0
          fresh := after })

-- Moves the held bytes to the front when room is short or half of the window is spent.
def shift (window : Window) : Window :=
  if 0 < window.start && (window.start + window.seenSize == window.capacity
      || window.capacity / 2 < window.start) then
    { window with start := 0 }
  else window

def grow (limit : Nat) (window : Window) : Window :=
  { window with start := 0, capacity := min (window.capacity * 2) limit }

def room (window : Window) : Nat := window.capacity - (window.start + window.seenSize)

def makeRoom (limit : Nat) (window : Window) : Option Window :=
  if 0 < window.shift.room then some window.shift
  else if window.shift.capacity < limit && 0 < (window.shift.grow limit).room then
    some (window.shift.grow limit)
  else none

theorem make_room_room (limit : Nat) (window roomy : Window)
    (made : window.makeRoom limit = some roomy) : 0 < roomy.room := by
  unfold makeRoom at made
  split at made
  · rename_i free
    exact Option.some.inj made ▸ free
  · split at made
    · rename_i grown
      have free : 0 < (window.shift.grow limit).room := by simp_all
      exact Option.some.inj made ▸ free
    · simp at made

def remainder (window : Window) : Bytes := window.seen.reverse

theorem take_line_shorter (window next : Window) (line : Bytes)
    (taken : window.takeLine = (some line, next)) : next.fresh.length < window.fresh.length := by
  have parts := congrArg List.length
    (List.takeWhile_append_dropWhile (p := fun byte => byte != Bytes.newline) (l := window.fresh))
  unfold takeLine at taken
  cases rest : window.fresh.dropWhile (fun byte => byte != Bytes.newline) with
  | nil => simp [rest] at taken
  | cons byte after =>
      simp only [rest, Prod.mk.injEq] at taken
      obtain ⟨-, rfl⟩ := taken
      simp only [rest, List.length_append, List.length_cons] at parts
      simp only
      omega

end Window

def dropReturn (line : Bytes) : Bytes :=
  match line.reverse with
  | 0x0D :: rest => rest.reverse
  | _ => line

end OpcodeTable.Source
