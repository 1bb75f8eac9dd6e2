import OpcodeTable.Engine
import OpcodeTable.Proofs.Closing

set_option autoImplicit false

namespace OpcodeTable

open Pipeline (Runner Scene Part Slot RowSource RowSink MetricsSpec)

namespace Pipeline

section Slots

variable {σ δ : Type} (behaviour : Behaviour σ δ)

end Slots

namespace Runner

end Runner

end Pipeline

namespace Engine

def order (sinks : List RowSink) : List Part := .source :: .vector :: (List.range sinks.length).map .sink

section Lifecycle

variable (source : RowSource) (vector : Vector.Client) (policy : Vector.Policy) (sinks : List RowSink)
  (publishing : MetricsSpec) (scene : Scene) (moment : Metrics.Moment)

def answer (ran : Option Fault) (closing : List (Option Fault)) : Option Fault :=
  match ran with
  | some fault => Fault.join (some fault :: closing)
  | none => (Fault.join closing).map (Fault.context "close: ")

end Lifecycle

end Engine

end OpcodeTable
