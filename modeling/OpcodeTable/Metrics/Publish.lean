import OpcodeTable.Files
import OpcodeTable.Metrics.Exposition
import OpcodeTable.Metrics.Gateway
import OpcodeTable.Pipeline.Spec

set_option autoImplicit false

namespace OpcodeTable.Metrics

structure Published where
  fault : Option Fault
  files : Files
  pushed : List PushRequest

def writeTextfile (registry : Registry) (path : String) (files : Files) : Option Fault × Files :=
  if path == "" then (none, files)
  else
    match files.replace path (Bytes.ofText registry.exposition) with
    | .ok after => (none, after)
    | .error fault => (some (.context "textfile: " fault), files)

def pushTo (gateway : Gateway) (asker : Asker) (url job : String) :
    Option Fault × List PushRequest :=
  if url == "" then (none, [])
  else
    let (fault, requests) := push gateway asker url job
    (fault.map (Fault.context "pushgateway: "), requests)

def Registry.publish (registry : Registry) (target : Pipeline.MetricsSpec) (gateway : Gateway)
    (asker : Asker) (files : Files) : Published :=
  let (unwritten, after) := writeTextfile registry target.textfile files
  let (unpushed, requests) := pushTo gateway asker target.gateway target.job
  ⟨Fault.join [unwritten, unpushed], after, requests⟩

end OpcodeTable.Metrics
