import OpcodeTable.Asker
import OpcodeTable.Endpoint
import OpcodeTable.Url

set_option autoImplicit false

namespace OpcodeTable.Metrics

inductive Gateway where
  | unreachable
  | answering (status : Int) (body : String)

structure PushRequest where
  method : String
  path : String
  contentType : String
deriving DecidableEq, Repr

def contentType : String :=
  "application/vnd.google.protobuf; proto=io.prometheus.client.MetricFamily; encoding=delimited"

def escapeJob (job : Bytes) : Bytes :=
  job.flatMap fun byte =>
    if byte == Bytes.space then ascii "+" else Url.Part.component.escape [byte]

def base64Digit (value : Nat) : Char :=
  if value < 26 then Char.ofNat (65 + value)
  else if value < 52 then Char.ofNat (71 + value)
  else if value < 62 then Char.ofNat (value - 4)
  else if value == 62 then '-'
  else '_'

def base64 : Bytes → List Char
  | a :: b :: c :: rest =>
      let word := a.toNat * 65536 + b.toNat * 256 + c.toNat
      base64Digit (word / 262144) :: base64Digit (word / 4096 % 64) :: base64Digit (word / 64 % 64)
        :: base64Digit (word % 64) :: base64 rest
  | [a, b] =>
      let word := a.toNat * 65536 + b.toNat * 256
      [base64Digit (word / 262144), base64Digit (word / 4096 % 64), base64Digit (word / 64 % 64)]
  | [a] => [base64Digit (a.toNat / 4), base64Digit (a.toNat % 4 * 16)]
  | [] => []

-- A job whose name has a slash in it cannot stand in a path as it is.
def jobPath (job : String) : String :=
  let name := Utf8.ofText job
  if name.contains Bytes.slash then "/metrics/job@base64/" ++ String.ofList (base64 name)
  else "/metrics/job/" ++ Utf8.toText (escapeJob name)

def baseUrl (url : String) : String :=
  let full := if (url.splitOn "://").length ≤ 1 then "http://" ++ url else url
  if full.endsWith "/" then (full.dropEnd 1).toString else full

def effectiveJob (job : String) : String := if job == "" then "optab" else job

def unsendable (url : Url) : Option Fault :=
  if url.scheme != "http" && url.scheme != "https" then
    some (.plain ("unsupported protocol scheme " ++ Text.quote url.scheme))
  else if url.host.isEmpty then some (.plain "http: no Host in request URL")
  else none

def endpointOf (url : Url) : String :=
  let usual := ascii (if url.scheme == "https" then "443" else "80")
  let (host, port) := match Url.cutLast ':' url.host with
    | some (host, port) =>
        if port.all Bytes.isDigit then (host, if port.isEmpty then usual else port)
        else (url.host, usual)
    | none => (url.host, usual)
  let bare := host.any (Url.among ":") && !(host.take 1).any (Url.among "[")
  let shown := if bare then ascii "[" ++ host ++ ascii "]" else host
  Utf8.toText (shown ++ ascii ":" ++ port)

def requestPath (url : Url) : String :=
  if url.path.text.isEmpty then "/" else Utf8.toText url.shownPath

def send (gateway : Gateway) (asker : Asker) (full : String) (url : Url) :
    Option Fault × List PushRequest :=
  let failed (cause : Fault) : Option Fault × List PushRequest :=
    (some (.context ("Put " ++ Text.quote url.toText ++ ": ") cause), [])
  match unsendable url with
  | some fault => failed fault
  | none =>
      if asker.gaveUp then failed asker.reason
      else
        match gateway with
        | .unreachable => failed (Endpoint.connect (endpointOf url))
        | .answering status body =>
            let refusal : Fault := .plain ("unexpected status code " ++ toString status
              ++ " while pushing to " ++ full ++ ": " ++ body)
            (if status == 200 || status == 202 then none else some refusal,
              [⟨"PUT", requestPath url, contentType⟩])

def push (gateway : Gateway) (asker : Asker) (url job : String) :
    Option Fault × List PushRequest :=
  let full := baseUrl url ++ jobPath (effectiveJob job)
  match Url.read full with
  | .error fault => (some fault, [])
  | .ok target => send gateway asker full target.dropEmptyPort

end OpcodeTable.Metrics
