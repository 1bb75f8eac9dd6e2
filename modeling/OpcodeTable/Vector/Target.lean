import OpcodeTable.Endpoint
import OpcodeTable.Url

set_option autoImplicit false

namespace OpcodeTable.Vector

inductive Target where
  | lookup (name : String)
  | direct (endpoint : String)
  | socket (authority path : String)
deriving DecidableEq, Repr

namespace Target

def placeOf (url : Url) : String :=
  Utf8.toText (if url.path.meaning.isEmpty then url.rootless.getD [] else url.path.meaning)

def endpointOf (url : Url) : String :=
  let place := placeOf url
  if place.startsWith "/" then (place.drop 1).toString else place

def ofUrl? (url : Url) : Option Target :=
  match url.scheme with
  | "dns" => some (.lookup (endpointOf url))
  | "passthrough" => some (.direct (endpointOf url))
  | "unix" => some (.socket (Utf8.toText url.host) (placeOf url))
  | _ => none

-- An address that does not say how it is meant is looked up.
def ofText (text : String) : Except Fault Target :=
  match (Url.read text).toOption.bind ofUrl? with
  | some target => .ok target
  | none => (Url.read ("dns:///" ++ text)).map fun url => .lookup (endpointOf url)

def idle (fault : Fault) : Fault := .context "failed to exit idle mode: " fault

def defaultPort : String := "443"

def withPort (host port : String) : String :=
  (if host.toList.contains ':' then "[" ++ host ++ "]" else host) ++ ":" ++ port

def splitName (name : String) : Except Fault (String × String) :=
  if name.isEmpty then .error (.plain "dns resolver: missing address")
  else if Address.isNumeric name then .ok (name, defaultPort)
  else
    match Endpoint.split name with
    | .ok (_, "") => .error (.plain "dns resolver: missing port after port-separator colon")
    | .ok ("", port) => .ok ("localhost", port)
    | .ok (host, port) => .ok (host, port)
    | .error _ =>
        match Endpoint.split (name ++ ":" ++ defaultPort) with
        | .ok found => .ok found
        | .error fault =>
            .error (.context ("invalid target address " ++ name ++ ", error info: ") fault)

def disconnected (cause : String) : Fault :=
  .status .unavailable
    ("connection error: desc = " ++ Text.quote ("transport: Error while dialing: " ++ cause))

def nowhere : Fault := .status .unavailable "name resolver error: produced zero addresses"

def absence : Target → Fault
  | .lookup name =>
      match splitName name with
      | .error fault => idle fault
      | .ok (host, port) =>
          match Endpoint.resolve host with
          | .error _ => nowhere
          | .ok _ => disconnected (Endpoint.connect (withPort host port)).message
  | .direct "" => idle (.plain "passthrough: received empty target in Build()")
  | .direct endpoint => disconnected (Endpoint.connect endpoint).message
  | .socket "" path => disconnected ("dial unix " ++ path ++ ": connect: no such file or directory")
  | .socket authority _ => idle (.plain ("invalid (non-empty) authority: " ++ authority))

end Target

end OpcodeTable.Vector
