import OpcodeTable.Fault

set_option autoImplicit false

namespace OpcodeTable

-- Who asked for something to be done: whether it has given up by now, and the reason it gives when it does.
structure Asker where
  gaveUp : Bool
  reason : Fault

namespace Asker

-- An asker without a time limit gives up only when it is cancelled.
instance : Coe Bool Asker := ⟨fun cancelled => ⟨cancelled, .canceled⟩⟩

def giveUp (asker : Asker) : Asker := { asker with gaveUp := true }

end Asker

end OpcodeTable
