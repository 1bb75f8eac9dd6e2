import OpcodeTable.Sink.Record
import OpcodeTable.Sink.Writer

set_option autoImplicit false

namespace OpcodeTable.Sink

def paddedNumber (width : Nat) (number : Int) : String :=
  let digits := toString number.natAbs
  let sign := if number < 0 then "-" else ""
  sign ++ String.ofList (List.replicate (width - sign.length - digits.length) '0') ++ digits

def counterText (seq : Int) : Bytes := ascii ("[" ++ paddedNumber 6 seq ++ "] ")

structure Console where
  counter : Bool
  writer : Writer

namespace Console

def onto (device : Device) : Console := ⟨false, .onto device⟩

def configure (console : Console) (counter : Bool) : Console := { console with counter := counter }

def unsuitable (type : String) : Fault := .plain ("stdout-sink: expected Config, got " ++ type)

def push (console : Console) (record : Record) : Option Fault × Console :=
  let counted := if console.counter then console.writer.put (counterText record.seq) else console.writer
  let writer := (counted.putText record.line).putByte Bytes.newline
  (writer.fault, { console with writer := writer })

def close (console : Console) : Option Fault × Console :=
  let writer := console.writer.flush
  (writer.fault, { console with writer := writer })

def written (console : Console) : Bytes := console.writer.device.written

end Console

end OpcodeTable.Sink
