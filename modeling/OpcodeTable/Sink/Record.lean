import OpcodeTable.Bytes
import OpcodeTable.Fault
import OpcodeTable.Text.Quoted

set_option autoImplicit false

namespace OpcodeTable.Sink

structure Record where
  seq : Int
  line : Bytes
deriving DecidableEq, Repr

inductive Kind where
  | console
  | topic
deriving DecidableEq, Repr

def Kind.ofName (name : String) : Except Fault Kind :=
  match name with
  | "stdout" => .ok .console
  | "kafka" => .ok .topic
  | _ => .error (.plain ("unknown sink " ++ Text.quote name))

end OpcodeTable.Sink
