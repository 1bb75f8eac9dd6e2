import OpcodeTable.Utf8
import OpcodeTable.Vector.Policy
import OpcodeTable.Word

set_option autoImplicit false

namespace OpcodeTable.Vector

def serviceName : String := "optab.v1.VectorRewriter"

def methodName : String := "Rewrite"

def fullMethod : String := "/" ++ serviceName ++ "/" ++ methodName

def emptyRow : Fault := .status .invalidArgument "empty row"

def served (fault : Fault) : Fault :=
  match fault.statusOf with
  | some _ => fault
  | none => .status .internal fault.message

def serve (next : Caller) : Caller := fun limit row session =>
  if row.isEmpty then (.error emptyRow, session)
  else
    match next limit row session with
    | (.ok text, after) => (.ok text, after)
    | (.error fault, after) => (.error (served fault), after)

def handle (next : Caller) (request : Except Fault Bytes) (session : Session) :
    Except Fault Bytes × Session :=
  match request with
  | .error fault => (.error fault, session)
  | .ok row => serve next none row session

-- What arrives at the other end of a connection is a bare status: the text added around one is part
-- of its description.
def delivered : Fault → Fault
  | .status code description => .status code description
  | fault => .status (fault.statusOf.getD .unknown) fault.message

inductive ServingStatus where
  | unknown
  | serving
  | notServing
  | serviceUnknown
  | other (number : Int)
deriving DecidableEq, Repr

def ServingStatus.ofInt (number : Int) : ServingStatus :=
  match Word.wrap 32 number with
  | 0 => .unknown
  | 1 => .serving
  | 2 => .notServing
  | 3 => .serviceUnknown
  | rest => .other rest

def ServingStatus.name : ServingStatus → String
  | .unknown => "UNKNOWN"
  | .serving => "SERVING"
  | .notServing => "NOT_SERVING"
  | .serviceUnknown => "SERVICE_UNKNOWN"
  | .other number => toString number

structure Server where
  rewriter : Option Rewriter
  health : List (String × ServingStatus)

namespace Server

def bare (rewriter : Option Rewriter) : Server := ⟨rewriter, [("", .serving)]⟩

def report (server : Server) (service : String) (status : ServingStatus) : Server :=
  { server with health := (service, status) :: server.health }

def start (rewriter : Option Rewriter) (services : List String) : Server :=
  let mounted := if rewriter.isSome then [serviceName] else []
  (mounted ++ services).foldl (fun server service => server.report service .serving) (bare rewriter)

def check (server : Server) (service : String) : Except Fault ServingStatus :=
  match server.health.lookup service with
  | some status => .ok status
  | none => .error (.status .notFound "unknown service")

def invalidText : Fault :=
  .status .internal "grpc: error while marshaling: string field contains invalid UTF-8"

def lengthSize (length : Nat) : Nat := length.log2 / 7 + 1

-- The bytes of a message that holds a row: a mark, the length of the row, and the row. An empty row
-- is left out.
def messageSize (row : Bytes) : Nat :=
  let length := row.length
  if length == 0 then 0 else 1 + lengthSize length + length

def largestMessage : Nat := 4194304

def tooLarge (size : Nat) : Fault :=
  .status .resourceExhausted ("grpc: received message larger than max (" ++ toString size ++ " vs. "
    ++ toString largestMessage ++ ")")

def receive (row : Bytes) : Except Fault Bytes :=
  let size := messageSize row
  if largestMessage < size then .error (tooLarge size) else .ok row

def call (server : Server) : Caller := fun limit row session =>
  match server.rewriter, receive row with
  | none, _ => (.error (.status .unimplemented ("unknown service " ++ serviceName)), session)
  | some _, .error fault => (.error fault, session)
  | some rewriter, .ok row =>
      match serve rewriter.call limit row session with
      | (.error fault, after) => (.error (delivered fault), after)
      | (.ok text, after) =>
          if Utf8.isValid text then (receive text, after) else (.error invalidText, after)

end Server

end OpcodeTable.Vector
