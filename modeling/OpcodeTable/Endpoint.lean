import OpcodeTable.Address
import OpcodeTable.Fault

set_option autoImplicit false

namespace OpcodeTable

structure Endpoint where
  host : String
  port : Nat
deriving DecidableEq, Repr

namespace Endpoint

def bad (text reason : String) : Fault := .plain ("address " ++ text ++ ": " ++ reason)

def cut (text : List Char) : Option (List Char × List Char) :=
  match text.reverse.span (· != ':') with
  | (_, []) => none
  | (port, _ :: host) => some (host.reverse, port.reverse)

def checkBrackets (text : String) (host rest : List Char) : Option Fault :=
  if host.contains '[' || rest.contains '[' then some (bad text "unexpected '[' in address")
  else if rest.contains ']' then some (bad text "unexpected ']' in address")
  else none

def splitBracketed (text : String) (inner : List Char) : Except Fault (String × String) :=
  match inner.span (· != ']') with
  | (_, []) => .error (bad text "missing ']' in address")
  | (_, [_]) => .error (bad text "missing port in address")
  | (host, _ :: ':' :: port) =>
      if port.contains ':' then .error (bad text "too many colons in address")
      else
        match checkBrackets text host port with
        | some fault => .error fault
        | none => .ok (String.ofList host, String.ofList port)
  | (_, _ :: _) => .error (bad text "missing port in address")

def split (text : String) : Except Fault (String × String) :=
  match cut text.toList with
  | none => .error (bad text "missing port in address")
  | some (host, port) =>
      match text.toList with
      | '[' :: inner => splitBracketed text inner
      | _ =>
          if host.contains ':' then .error (bad text "too many colons in address")
          else
            match checkBrackets text [] (host ++ port) with
            | some fault => .error fault
            | none => .ok (String.ofList host, String.ofList port)

-- A number that is far too large stops growing, and what follows is then not looked at.
def ceiling : Nat := 1073741824

def magnitude : List Char → Nat → Option Nat
  | [], value => some value
  | c :: rest, value =>
      if !c.isDigit then none
      else if ceiling ≤ value then some ceiling
      else magnitude rest (value * 10 + (c.toNat - 48))

def services : List (String × Nat) :=
  [("ftp", 21), ("ftps", 990), ("gopher", 70), ("http", 80), ("https", 443), ("imap2", 143),
    ("imap3", 220), ("imaps", 993), ("pop3", 110), ("pop3s", 995), ("smtp", 25), ("ssh", 22),
    ("submissions", 465), ("telnet", 23)]

def servicePort (name : String) : Except Fault Nat :=
  match services.lookup name.toLower with
  | some port => .ok port
  | none => .error (.plain ("lookup tcp/" ++ name ++ ": unknown port"))

def portNumber (text : String) : Except Fault Nat :=
  let (negative, digits) := match text.toList with
    | '-' :: rest => (true, rest)
    | '+' :: rest => (false, rest)
    | rest => (false, rest)
  match magnitude digits 0 with
  | none => servicePort text
  | some value =>
      if value ≤ 65535 && !(negative && 0 < value) then .ok value
      else .error (bad text "invalid port")

def render (endpoint : Endpoint) : String :=
  let host := if endpoint.host.toList.contains ':' then "[" ++ endpoint.host ++ "]" else endpoint.host
  host ++ ":" ++ toString endpoint.port

def resolve (host : String) : Except Fault Unit :=
  if host.isEmpty || Address.isNumeric host || Address.isName host then .ok ()
  else .error (.plain ("lookup " ++ host ++ ": no such host"))

def parse (text : String) : Except Fault Endpoint := do
  let (host, port) ← split text
  let number ← portNumber port
  resolve host
  return ⟨host, number⟩

def listen (text : String) : Except Fault Endpoint :=
  if text.isEmpty then .ok ⟨"", 0⟩
  else (parse text).mapError (Fault.context "listen tcp: ")

-- No host can be reached from where the program runs, so connecting fails one way or the other.
def connect (text : String) : Fault :=
  if text.isEmpty then .plain "dial tcp: missing address"
  else
    match parse text with
    | .error fault => .context "dial tcp: " fault
    | .ok endpoint => .plain ("dial tcp " ++ endpoint.render ++ ": connect: network is unreachable")

end Endpoint

end OpcodeTable
