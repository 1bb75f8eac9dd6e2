import OpcodeTable.Endpoint
import OpcodeTable.Text.Quoted
import OpcodeTable.Word

set_option autoImplicit false

namespace OpcodeTable.Broker

structure Version where
  major : Nat
  minor : Nat
  patch : Nat
  fix : Nat
deriving DecidableEq, Repr

namespace Version

def invalid (text : String) : Fault := .plain ("invalid version `" ++ text ++ "`")

def numerals (text : String) : Option (List String) :=
  let parts := text.splitOn "."
  if parts.all fun part => !part.isEmpty && part.all Char.isDigit then some parts else none

def number (digits : String) : Except Fault Nat :=
  let value := digits.toList.foldl (fun total c => total * 10 + (c.toNat - 48)) 0
  if value < Word.span 64 then .ok value
  else .error (.plain ("strconv.ParseUint: parsing " ++ Text.quote digits ++ ": value out of range"))

-- A version that starts with 0 has four numbers, any other three.
def parse (text : String) : Except Fault Version :=
  if text.utf8ByteSize < 5 then .error (invalid text)
  else
    match numerals text with
    | some [first, second, third, fourth] =>
        if first == "0" then do
          return ⟨0, ← number second, ← number third, ← number fourth⟩
        else .error (invalid text)
    | some [first, second, third] =>
        if text.startsWith "0" then .error (invalid text)
        else do return ⟨← number first, ← number second, ← number third, 0⟩
    | _ => .error (invalid text)

def render (version : Version) : String :=
  if version.major == 0 then
    "0." ++ toString version.minor ++ "." ++ toString version.patch ++ "." ++ toString version.fix
  else toString version.major ++ "." ++ toString version.minor ++ "." ++ toString version.patch

end Version

structure Login where
  user : String
  password : String
deriving DecidableEq, Repr

structure Client where
  brokers : List String
  version : Version
  clientId : String
  acks : Int
  login : Option Login

def isPlainIdLetter (c : Char) : Bool :=
  c.isAlphanum || c == '.' || c == '_' || c == '-'

def isPlainId (id : String) : Bool := !id.isEmpty && id.all isPlainIdLetter

def misconfigured (text : String) : Fault := .plain ("kafka: invalid configuration (" ++ text ++ ")")

def Client.complaint (client : Client) : Option String :=
  if client.login.any fun login => login.password.isEmpty then
    some "Net.SASL.Password must not be empty when SASL is enabled"
  else if client.acks < -1 then some "Producer.RequiredAcks must be >= -1"
  else if client.version.major == 0 && !isPlainId client.clientId then
    some ("ClientID value " ++ Text.quote client.clientId
      ++ " is not valid for Kafka versions before 1.0.0")
  else if client.brokers.isEmpty then some "You must provide at least one broker address"
  else none

def listFailures : List String → String
  | [failure] => failure
  | failures =>
      toString failures.length ++ " errors occurred:\n\t"
        ++ "\n\t".intercalate (failures.map fun failure => "* " ++ failure) ++ "\n"

def outOfBrokers (brokers : List String) : Fault :=
  .plain ("kafka: client has run out of available brokers to talk to: "
    ++ listFailures (brokers.map fun address => (Endpoint.connect address).message))

-- No broker can be reached from where the program runs, so connecting fails one way or the other.
def Client.connect (client : Client) : Fault :=
  match client.complaint with
  | some text => misconfigured text
  | none => outOfBrokers client.brokers

end OpcodeTable.Broker
