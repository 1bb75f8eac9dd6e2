import OpcodeTable.Vector.Service
import OpcodeTable.Vector.Target

set_option autoImplicit false

namespace OpcodeTable.Vector

structure Connection where
  target : Target
  -- There may be nothing to reach at the target.
  server : Option Server
  isOpen : Bool

namespace Connection

def dial (target : Target) (server : Option Server) : Connection := ⟨target, server, true⟩

def closing : Fault := .status .canceled "grpc: the client connection is closing"

def givenUp : Fault := .status .canceled "context canceled"

def outOfTime : Fault := .status .deadlineExceeded "context deadline exceeded"

def abandoned (session : Session) : Fault := if session.expires then outOfTime else givenUp

def hasPassed (limit : Option Nat) (session : Session) : Bool :=
  limit.any fun moment => moment ≤ session.now

-- A call whose caller has given up, or whose time is over, ends with that whatever the server says.
def settle (limit : Option Nat) : Except Fault Bytes × Session → Except Fault Bytes × Session
  | (result, session) =>
      if session.isOver then (.error (abandoned session), session)
      else if hasPassed limit session then (.error outOfTime, session)
      else (result, session)

def call (connection : Connection) : Caller := fun limit row session =>
  if !connection.isOpen then (.error closing, session)
  else if session.isOver then (.error (abandoned session), session)
  else if !Utf8.isValid row then (.error Server.invalidText, session)
  else
    match connection.server with
    | none => (.error connection.target.absence, session)
    | some server => settle limit (server.call limit row session)

def check (connection : Connection) (service : String) (session : Session) :
    Except Fault ServingStatus :=
  if !connection.isOpen then .error closing
  else if session.isOver then .error (abandoned session)
  else
    match connection.server with
    | none => .error connection.target.absence
    | some server => server.check service

def health (connection : Connection) (session : Session) : Option Fault :=
  match connection.check serviceName session with
  | .error fault => some (.within "" .unavailable (": " ++ fault.message))
  | .ok .serving => none
  | .ok status => some (.within "" .unavailable (": " ++ status.name))

def close (connection : Connection) : Option Fault × Connection :=
  if connection.isOpen then (none, { connection with isOpen := false })
  else (some closing, connection)

end Connection

inductive Client where
  | passthrough
  | inProcess (rewriter : Rewriter) (ending : Option Fault)
  | remote (connection : Connection)

namespace Client

def call : Client → Caller
  | .passthrough => fun _ row session => (.ok row, session)
  | .inProcess rewriter _ => rewriter.call
  | .remote connection => connection.call

def health (client : Client) (session : Session) : Option Fault :=
  match client with
  | .passthrough | .inProcess _ _ => none
  | .remote connection => connection.health session

def close : Client → Option Fault × Client
  | .passthrough => (none, .passthrough)
  | .inProcess rewriter ending => (ending, .inProcess rewriter ending)
  | .remote connection =>
      match connection.close with
      | (fault, after) => (fault, .remote after)

def rewrite (client : Client) (policy : Policy) (row : Bytes) (session : Session) : Rewritten :=
  policy.rewrite client.call row session

end Client

end OpcodeTable.Vector
