import OpcodeTable.Broker
import OpcodeTable.Sink.Record

set_option autoImplicit false

namespace OpcodeTable.Sink

structure TopicSettings where
  brokers : List String
  topic : String
  acks : Int
  version : String
  clientId : String
  tls : Bool
deriving DecidableEq, Repr

structure Message where
  topic : String
  key : String
  value : Bytes
deriving DecidableEq, Repr

-- What the broker does: whether it lets a producer connect, takes the `n`-th message of all, counted
-- from 1, and lets the producer go.
structure Exchange where
  connect : Broker.Client → Option Fault
  refuse : Nat → Option Fault
  closing : Option Fault

def Exchange.none : Exchange := ⟨fun client => some client.connect, fun _ => Option.none, Option.none⟩

structure Topic where
  exchange : Exchange
  topic : String
  connected : Bool
  sends : Nat
  delivered : List Message

namespace Topic

def onto (exchange : Exchange) : Topic := ⟨exchange, "", false, 0, []⟩

def unsuitable (type : String) : Fault := .plain ("kafka-sink: want Config, got " ++ type)

def client (settings : TopicSettings) (version : Broker.Version) : Broker.Client :=
  ⟨settings.brokers, version, settings.clientId, settings.acks, none⟩

def configure (sink : Topic) (settings : TopicSettings) :
    Option Fault × Option Broker.Client × Topic :=
  let named := { sink with topic := settings.topic }
  match Broker.Version.parse settings.version with
  | .error fault => (some fault, none, named)
  | .ok version =>
      let client := client settings version
      let refusal := sink.exchange.connect client
      (refusal, some client, { named with connected := refusal.isNone })

def rowFailed (seq : Int) (fault : Fault) : Fault :=
  .context ("kafka-sink: row " ++ toString seq ++ ": ") fault

def push (sink : Topic) (record : Record) : Option Fault × Topic :=
  if !sink.connected then (some .misuse, sink)
  else
    let counted := { sink with sends := sink.sends + 1 }
    match sink.exchange.refuse counted.sends with
    | some fault => (some (rowFailed record.seq fault), counted)
    | none =>
        let message := ⟨sink.topic, toString record.seq, record.line⟩
        (none, { counted with delivered := counted.delivered ++ [message] })

def close (sink : Topic) : Option Fault × Topic :=
  if sink.connected then (sink.exchange.closing, { sink with connected := false }) else (none, sink)

end Topic

end OpcodeTable.Sink
