import OpcodeTable.Bytes
import OpcodeTable.Fault

/-!
Bytes reach the device when the buffer is full and one more is written, or when it is flushed; a long text
may be handed on past the buffer. A failure of the device stays for good.
-/

set_option autoImplicit false

namespace OpcodeTable.Sink

-- A device takes `room` bytes in all, or any number of them; pieces are held last one first.
structure Device where
  room : Option Nat
  fault : Fault
  pieces : List Bytes
  direct : Bool

namespace Device

def unlimited : Device := ⟨none, .misuse, [], false⟩

def limited (room : Nat) (fault : Fault) : Device := ⟨some room, fault, [], false⟩

def standardOutput : Device := { unlimited with direct := true }

def written (device : Device) : Bytes := device.pieces.reverse.flatten

def write (device : Device) (data : Bytes) : Option Fault × Device :=
  match device.room with
  | none => (none, { device with pieces := data :: device.pieces })
  | some room =>
      if data.length ≤ room then
        (none, { device with room := some (room - data.length), pieces := data :: device.pieces })
      else
        (some device.fault,
          { device with room := some 0, pieces := data.take room :: device.pieces })

end Device

def bufferSize : Nat := 4096

structure Writer where
  device : Device
  -- Bytes in the buffer, last one first.
  held : Bytes
  size : Nat
  fault : Option Fault

namespace Writer

def onto (device : Device) : Writer := ⟨device, [], 0, none⟩

def flush (writer : Writer) : Writer :=
  match writer.fault with
  | some _ => writer
  | none =>
      if writer.size = 0 then writer
      else
        match writer.device.write writer.held.reverse with
        | (none, device) => { writer with device := device, held := [], size := 0 }
        | (some fault, device) => { writer with device := device, fault := some fault }

def makeRoom (writer : Writer) : Writer :=
  if bufferSize ≤ writer.size then writer.flush else writer

def putByte (writer : Writer) (byte : UInt8) : Writer :=
  let roomy := writer.makeRoom
  match roomy.fault with
  | some _ => roomy
  | none => { roomy with held := byte :: roomy.held, size := roomy.size + 1 }

def put (writer : Writer) (data : Bytes) : Writer := data.foldl putByte writer

def forward (writer : Writer) (text : Bytes) : Writer :=
  match writer.fault with
  | some _ => writer
  | none =>
      match writer.device.write text with
      | (none, device) => { writer with device := device }
      | (some fault, device) => { writer with device := device, fault := some fault }

def filling (writer : Writer) : Nat := if writer.size = 0 then 0 else bufferSize - writer.size

-- A text of which more is left than a whole buffer holds, once the buffer in use has been filled up
-- and emptied, goes to a direct device as it is.
def putText (writer : Writer) (text : Bytes) : Writer :=
  if writer.device.direct && bufferSize < text.length - writer.filling then
    (writer.put (text.take writer.filling)).flush.forward (text.drop writer.filling)
  else writer.put text

end Writer

end OpcodeTable.Sink
