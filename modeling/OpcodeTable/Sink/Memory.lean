import OpcodeTable.Sink.Record

set_option autoImplicit false

namespace OpcodeTable.Sink

structure Memory where
  refuse : Nat → Record → Option Fault
  offers : Nat
  ending : Option Fault

namespace Memory

def refusing (seq : Int) (fault ending : Option Fault) : Memory :=
  ⟨fun _ record => if record.seq == seq then fault else none, 0, ending⟩

def push (sink : Memory) (record : Record) : Option Fault × Memory :=
  (sink.refuse sink.offers record, { sink with offers := sink.offers + 1 })

end Memory

end OpcodeTable.Sink
