import OpcodeTable.Bytes
import OpcodeTable.Asker
import OpcodeTable.Log.Entry

set_option autoImplicit false

namespace OpcodeTable.Source

inductive Verdict where
  | accept
  | acceptAndCancel
  | refuse (fault : Fault)

-- Decides on the `n`-th row of a run, counted from 1.
abbrev Receiver := Nat → Bytes → Verdict

def Receiver.all : Receiver := fun _ _ => .accept

structure Report where
  rows : List Bytes
  fault : Option Fault
  logs : List Log.Entry

end OpcodeTable.Source
