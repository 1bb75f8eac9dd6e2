import OpcodeTable.Metrics.Gateway
import OpcodeTable.Sink.Topic
import OpcodeTable.Source.Topic
import OpcodeTable.Vector.Service

set_option autoImplicit false

namespace OpcodeTable.Pipeline

structure Network where
  feed : Broker.Client → Except Fault Source.Feed
  exchange : Sink.Exchange
  server : String → Option Vector.Server
  gateway : String → Metrics.Gateway

def Network.none : Network :=
  ⟨Source.Feed.none, Sink.Exchange.none, fun _ => Option.none, fun _ => .unreachable⟩

end OpcodeTable.Pipeline
