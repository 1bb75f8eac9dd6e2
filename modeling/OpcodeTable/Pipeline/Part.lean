import OpcodeTable.Pipeline.Delivery
import OpcodeTable.Sink.Console
import OpcodeTable.Sink.Memory
import OpcodeTable.Sink.Topic
import OpcodeTable.Source.Lines
import OpcodeTable.Source.Memory
import OpcodeTable.Source.Topic

set_option autoImplicit false

namespace OpcodeTable.Pipeline

open Sink (Record Device)

inductive RowSource where
  | lines (source : Source.Lines)
  | topic (source : Source.Topic)
  | memory (source : Source.Memory)

namespace RowSource

-- Rows that are in memory already are handed over even if the asker has given up.
def run (source : RowSource) (files : Files) (asker : Asker) : Source.Report × RowSource :=
  match source with
  | .lines source =>
      match source.run files asker .all with
      | (report, after) => (report, .lines after)
  | .topic source => ((source.run asker .all).toReport, .topic source)
  | .memory source =>
      match source.run with
      | (report, after) => (report, .memory after)

def close : RowSource → Option Fault × RowSource
  | .lines source => (none, .lines source.close)
  | .topic source =>
      match source.close with
      | (fault, after) => (fault, .topic after)
  | .memory source => (source.ending, .memory source)

end RowSource

inductive RowSink where
  | console (sink : Sink.Console)
  | topic (sink : Sink.Topic)
  | memory (sink : Sink.Memory)

namespace RowSink

-- All consoles write to one device, each through a buffer of its own.
def onDevice (act : Sink.Console → Option Fault × Sink.Console) (console : Sink.Console)
    (device : Device) : Option Fault × RowSink × Device :=
  match act { console with writer := { console.writer with device := device } } with
  | (fault, after) => (fault, .console after, after.writer.device)

def push (record : Record) (sink : RowSink) (device : Device) : Option Fault × RowSink × Device :=
  match sink with
  | .console sink => onDevice (fun console => console.push record) sink device
  | .topic sink =>
      match sink.push record with
      | (fault, after) => (fault, .topic after, device)
  | .memory sink =>
      match sink.push record with
      | (fault, after) => (fault, .memory after, device)

def close (sink : RowSink) (device : Device) : Option Fault × RowSink × Device :=
  match sink with
  | .console sink => onDevice Sink.Console.close sink device
  | .topic sink =>
      match sink.close with
      | (fault, after) => (fault, .topic after, device)
  | .memory sink => (sink.ending, .memory sink, device)

def behaviour : Behaviour RowSink Device := ⟨push, close⟩

end RowSink

end OpcodeTable.Pipeline
