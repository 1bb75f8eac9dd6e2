import OpcodeTable.Broker
import OpcodeTable.Source.Receiver

set_option autoImplicit false

namespace OpcodeTable.Source

inductive Event where
  | message (offset : Int) (value : Bytes)
  | failure (fault : Fault)
  -- The channel of errors is closed; messages still arrive.
  | quiet
  | closed
  | cancelled

structure Partition where
  id : Int
  oldest : Except Fault Int
  newest : Except Fault Int
  consume : Except Fault Unit
  events : List Event

structure TopicSettings where
  brokers : List String
  topic : String
  version : String
  clientId : String
  tls : Bool
  user : String
  password : String
deriving DecidableEq, Repr

structure Feed where
  partitions : Except Fault (List Partition)
  consumerClose : Option Fault
  offsetsClose : Option Fault

def Feed.none (client : Broker.Client) : Except Fault Feed := .error client.connect

structure Topic where
  settings : TopicSettings
  limit : Int
  feed : Option Feed

structure TopicReport extends Report where
  opened : List Int

-- The rows taken so far, last one first, over all partitions read before.
structure Intake where
  rows : List Bytes
  count : Nat
  asker : Asker

def Intake.take (intake : Intake) (row : Bytes) (asker : Asker) : Intake :=
  ⟨row :: intake.rows, intake.count + 1, asker⟩

def trimTerminator (value : Bytes) : Bytes :=
  Bytes.trimRight (fun byte => byte == Bytes.carriageReturn || byte == Bytes.newline) value

def inPartition (id : Int) (fault : Fault) : Fault :=
  .context ("kafka-source: partition " ++ toString id ++ ": ") fault

def closedEarly (id mark : Int) : Fault :=
  .plain ("kafka-source: partition " ++ toString id ++ " closed before offset " ++ toString mark)

def messageTooLong (id offset : Int) : Fault :=
  .within "" .lineTooLong (" (partition " ++ toString id ++ " offset " ++ toString offset ++ ")")

def isOverLimit (limit : Int) (row : Bytes) : Bool := 0 < limit && limit < row.length

-- A partition whose events run out while rows are missing is left only when the asker gives up.
def drainEvents (limit : Int) (receiver : Receiver) (id mark : Int) :
    List Event → Intake → Intake × Option Fault
  | [], intake => (intake, some intake.asker.reason)
  | event :: rest, intake =>
      if intake.asker.gaveUp then (intake, some intake.asker.reason)
      else
        match event with
        | .cancelled => (intake, some intake.asker.reason)
        | .failure fault => (intake, some (inPartition id fault))
        | .quiet => drainEvents limit receiver id mark rest intake
        | .closed => (intake, some (closedEarly id mark))
        | .message offset value =>
            let row := trimTerminator value
            if isOverLimit limit row then (intake, some (messageTooLong id offset))
            else
              match receiver (intake.count + 1) row with
              | .refuse fault => (intake, some fault)
              | .acceptAndCancel =>
                  if mark - 1 ≤ offset then (intake.take row intake.asker.giveUp, none)
                  else drainEvents limit receiver id mark rest (intake.take row intake.asker.giveUp)
              | .accept =>
                  if mark - 1 ≤ offset then (intake.take row intake.asker, none)
                  else drainEvents limit receiver id mark rest (intake.take row intake.asker)

inductive Access where
  | skip
  | read (mark : Int)

def Partition.access (partition : Partition) : Except Fault Access :=
  match partition.oldest with
  | .error fault => .error (inPartition partition.id fault)
  | .ok oldest =>
      match partition.newest with
      | .error fault => .error (inPartition partition.id fault)
      | .ok newest =>
          if newest ≤ oldest then .ok .skip
          else
            match partition.consume with
            | .error fault => .error (inPartition partition.id fault)
            | .ok () => .ok (.read newest)

def drainAll (limit : Int) (receiver : Receiver) :
    List Partition → Intake → List Int → Intake × List Int × Option Fault
  | [], intake, opened => (intake, opened, none)
  | partition :: rest, intake, opened =>
      match partition.access with
      | .error fault => (intake, opened, some fault)
      | .ok .skip => drainAll limit receiver rest intake opened
      | .ok (.read mark) =>
          match drainEvents limit receiver partition.id mark partition.events intake with
          | (after, some fault) => (after, opened ++ [partition.id], some fault)
          | (after, none) => drainAll limit receiver rest after (opened ++ [partition.id])

namespace Topic

def ofSettings (settings : TopicSettings) : Topic := ⟨settings, 0, none⟩

def client (settings : TopicSettings) (version : Broker.Version) : Broker.Client :=
  { brokers := settings.brokers
    version := version
    clientId := settings.clientId
    acks := 1
    login := if settings.user.isEmpty then none else some ⟨settings.user, settings.password⟩ }

def configure (source : Topic) (reach : Broker.Client → Except Fault Feed) (limit : Int) :
    Option Fault × Topic :=
  let limited := { source with limit := limit }
  match source.feed with
  | some _ => (none, limited)
  | none =>
      match Broker.Version.parse source.settings.version with
      | .error fault => (some fault, limited)
      | .ok version =>
          match reach (client source.settings version) with
          | .error fault => (some fault, limited)
          | .ok feed => (none, { limited with feed := some feed })

def endEntry (topic : String) (partitions count : Nat) : Log.Entry :=
  ⟨.debug, "kafka-source: end of input",
    [("topic", .text topic), ("partitions", .number partitions), ("count", .number count)]⟩

def sorted (partitions : List Partition) : List Partition :=
  partitions.mergeSort fun a b => a.id ≤ b.id

def run (source : Topic) (asker : Asker) (receiver : Receiver) : TopicReport :=
  match source.feed with
  | none => ⟨⟨[], some (.plain "kafka-source: not configured"), []⟩, []⟩
  | some feed =>
      match feed.partitions with
      | .error fault =>
          ⟨⟨[], some (.context ("kafka-source: " ++ source.settings.topic ++ ": ") fault), []⟩, []⟩
      | .ok partitions =>
          match drainAll source.limit receiver (sorted partitions) ⟨[], 0, asker⟩ [] with
          | (intake, opened, some fault) => ⟨⟨intake.rows.reverse, some fault, []⟩, opened⟩
          | (intake, opened, none) =>
              ⟨⟨intake.rows.reverse, none,
                [endEntry source.settings.topic partitions.length intake.count]⟩, opened⟩

def close (source : Topic) : Option Fault × Topic :=
  match source.feed with
  | none => (none, source)
  | some feed => (Fault.join [feed.consumerClose, feed.offsetsClose], { source with feed := none })

end Topic

end OpcodeTable.Source
