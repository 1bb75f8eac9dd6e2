import OpcodeTable.Source.Receiver

set_option autoImplicit false

namespace OpcodeTable.Source

structure Memory where
  delivery : Nat → List Bytes × Option Fault
  runs : Nat
  ending : Option Fault

namespace Memory

def ofRows (rows : List Bytes) (fault ending : Option Fault) : Memory :=
  ⟨fun _ => (rows, fault), 0, ending⟩

def run (source : Memory) : Report × Memory :=
  match source.delivery source.runs with
  | (rows, fault) => (⟨rows, fault, []⟩, { source with runs := source.runs + 1 })

end Memory

end OpcodeTable.Source
