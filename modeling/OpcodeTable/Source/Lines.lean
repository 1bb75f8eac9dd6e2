import OpcodeTable.Files
import OpcodeTable.Source.Receiver
import OpcodeTable.Source.Window
import OpcodeTable.Text.Quoted

set_option autoImplicit false

namespace OpcodeTable.Source

def defaultLimit : Nat := 1048576

def effectiveLimit (setting : Int) : Nat := if setting ≤ 0 then defaultLimit else setting.toNat

structure Pass where
  rows : List Bytes
  count : Nat
  asker : Asker

structure Passed where
  rows : List Bytes
  count : Nat
  fault : Option Fault
  stream : Stream

def Pass.stop (pass : Pass) (fault : Option Fault) (stream : Stream) : Passed :=
  ⟨pass.rows.reverse, pass.count, fault, stream⟩

def Pass.offer (pass : Pass) (receiver : Receiver) (line : Bytes) : Except Fault Pass :=
  if pass.asker.gaveUp then .error pass.asker.reason
  else
    let row := dropReturn line
    match receiver (pass.count + 1) row with
    | .accept => .ok ⟨row :: pass.rows, pass.count + 1, pass.asker⟩
    | .acceptAndCancel => .ok ⟨row :: pass.rows, pass.count + 1, pass.asker.giveUp⟩
    | .refuse fault => .error fault

def tooLong (count : Nat) : Fault :=
  .within "" .lineTooLong (" (after line " ++ toString count ++ ")")

def Pass.finish (pass : Pass) (receiver : Receiver) (window : Window) (stream : Stream) : Passed :=
  match window.remainder with
  | [] => pass.stop stream.ending stream
  | line =>
      match pass.offer receiver line with
      | .error fault => pass.stop (some fault) stream
      | .ok last => last.stop stream.ending stream

def readLines (limit : Nat) (receiver : Receiver) (stream : Stream) (window : Window) (pass : Pass) :
    Passed :=
  match _found : window.takeLine with
  | (some line, next) =>
      match pass.offer receiver line with
      | .error fault => pass.stop (some fault) stream
      | .ok later => readLines limit receiver stream next later
  | (none, searched) =>
      match _made : searched.makeRoom limit with
      | none => pass.stop (some (tooLong pass.count)) stream
      | some roomy =>
          match _delivered : stream.read roomy.room with
          | none => pass.finish receiver roomy stream
          | some (data, rest) => readLines limit receiver rest { roomy with fresh := data } pass
termination_by (stream.size, window.fresh.length)
decreasing_by
  · exact Prod.Lex.right _ (Window.take_line_shorter _ _ _ _found)
  · exact Prod.Lex.left _ _ (Stream.read_size _ _ _ _ (Window.make_room_room _ _ _ _made) _delivered)

inductive Origin where
  -- A stream that is there from the start and that closing leaves alone.
  | given
  -- The file at the configured path, opened by the first run after a close.
  | file

structure Lines where
  origin : Origin
  path : String
  limit : Int
  stream : Option Stream

namespace Lines

def ofStream (stream : Stream) : Lines := ⟨.given, "", 0, some stream⟩

def ofFile : Lines := ⟨.file, "", 0, none⟩

def named (kind : String) (standardInput : Stream) : Except Fault Lines :=
  match kind with
  | "stdin" => .ok (ofStream standardInput)
  | "file" => .ok ofFile
  | _ => .error (.plain ("lines: unsupported source " ++ Text.quote kind))

def configure (source : Lines) (path : String) (limit : Int) : Lines :=
  { source with path := path, limit := effectiveLimit limit }

-- Opening a directory succeeds; the first read of it fails.
def openFile (files : Files) (path : String) : Except Fault Stream :=
  if path.isEmpty then .error (.plain "lines: file source needs a path")
  else
    match files.lookup path with
    | .error trouble => .error (.file "open" path trouble)
    | .ok .directory => .ok ⟨[], some (.file "read" path .isDirectory)⟩
    | .ok (.file content) => .ok (.ofData 0 content none)

def endEntry (count : Nat) : Log.Entry :=
  ⟨.debug, "lines: end of input", [("count", .number count)]⟩

def runOn (source : Lines) (stream : Stream) (asker : Asker) (receiver : Receiver) :
    Report × Lines :=
  let limit := effectiveLimit source.limit
  let passed := readLines limit receiver stream (.initial limit) ⟨[], 0, asker⟩
  let logs := if passed.fault.isSome then [] else [endEntry passed.count]
  (⟨passed.rows, passed.fault, logs⟩, { source with stream := some passed.stream })

-- Reads to the end of the stream. Bytes that were read ahead of a run that stopped early are gone
-- with it.
def run (source : Lines) (files : Files) (asker : Asker) (receiver : Receiver) :
    Report × Lines :=
  match source.stream with
  | some stream => source.runOn stream asker receiver
  | none =>
      match openFile files source.path with
      | .error fault => (⟨[], some fault, []⟩, source)
      | .ok stream => source.runOn stream asker receiver

def close (source : Lines) : Lines :=
  match source.origin with
  | .given => source
  | .file => { source with stream := none }

end Lines

end OpcodeTable.Source
