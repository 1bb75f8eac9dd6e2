import OpcodeTable.Path
import OpcodeTable.Pipeline.Spec
import OpcodeTable.Settings.Layer
import OpcodeTable.Word

/-!
Decoding is strict: keys are spelled exactly, and a value has to be of the kind that is asked for. A value
that stands for nothing changes nothing.
-/

set_option autoImplicit false

namespace OpcodeTable.Pipeline

open Yaml (Entries Node Value)

def malformed {α : Type} : Except Fault α := .error .malformedDocument

def scalarOf (node : Node) : Except Fault (Value × String) :=
  match node.target with
  | .scalar tag text =>
      match Yaml.scalarValue tag text with
      | some (.text decoded) => .ok (.text decoded, decoded)
      | some value => .ok (value, text)
      | none => malformed
  | _ => malformed

def textOf (unset : String) (node : Node) : Except Fault String :=
  match scalarOf node with
  | .error fault => .error fault
  | .ok (.null, _) => .ok unset
  | .ok (_, text) => .ok text

-- A number with a fraction loses it; numbers too large for 64 bits are refused.
def integerOf (unset : Int) (node : Node) : Except Fault Int :=
  match scalarOf node with
  | .error fault => .error fault
  | .ok (.null, _) => .ok unset
  | .ok (.whole number, _) => if number < Word.bound 64 then .ok number else malformed
  | .ok (.real .undefined, _) => malformed
  | .ok (.real (.infinite negative), _) => if negative then .ok (-Word.bound 64) else malformed
  | .ok (.real number, _) =>
      match number.truncate? with
      | some whole => if whole ≤ Word.bound 64 then .ok number.toInt64 else malformed
      | none => malformed
  | .ok _ => malformed

def agreement : List String := ["y", "Y", "yes", "Yes", "YES", "on", "On", "ON"]

def refusal : List String := ["n", "N", "no", "No", "NO", "off", "Off", "OFF"]

def flagOf (unset : Bool) (node : Node) : Except Fault Bool :=
  match scalarOf node with
  | .error fault => .error fault
  | .ok (.null, _) => .ok unset
  | .ok (.flag value, _) => .ok value
  | .ok (.text word, _) =>
      if agreement.contains word then .ok true
      else if refusal.contains word then .ok false
      else malformed
  | .ok _ => malformed

def itemsOf : List Node → Except Fault (List String)
  | [] => .ok []
  | item :: rest => do
      let scalar ← scalarOf item
      let others ← itemsOf rest
      match scalar with
      | (.null, _) => return others
      | (_, text) => return text :: others

def unsetBy {α : Type} (unset : α) (node : Node) : Except Fault α :=
  match scalarOf node with
  | .ok (.null, _) => .ok unset
  | _ => malformed

def textsOf (node : Node) : Except Fault (List String) :=
  match node.target with
  | .sequence items => itemsOf items
  | _ => unsetBy [] node

-- Every key of a block has to be a scalar, whether the block knows it or not.
def entriesOf (node : Node) : Except Fault Entries :=
  match node.target with
  | .mapping entries =>
      if entries.all fun entry => entry.1.valueOfKey?.isSome then .ok entries else malformed
  | _ => unsetBy [] node

def entry {α : Type} (decode : Node → Except Fault α) (unset : α) (entries : Entries)
    (name : String) : Except Fault α :=
  match entries.find? fun found => found.1.textOfKey? == some name with
  | some found => decode found.2
  | none => .ok unset

namespace Spec

def ofNode (node : Node) : Except Fault Spec := do
  let root ← entriesOf node
  let schemaVersion ← entry (textOf "") "" root "schema_version"
  let source ← entry entriesOf [] root "source"
  let kind ← entry (textOf "") "" source "kind"
  let config ← entry (textOf "") "" source "config"
  let vector ← entry entriesOf [] root "vector"
  let type ← entry (textOf "") "" vector "type"
  let address ← entry (textOf "") "" vector "address"
  let timeoutMs ← entry (integerOf 0) 0 vector "timeout_ms"
  let retries ← entry entriesOf [] vector "retry_policy"
  let attempts ← entry (integerOf 0) 0 retries "attempts"
  let backoffMs ← entry (integerOf 0) 0 retries "backoff_ms"
  let sinks ← entry textsOf [] root "sinks"
  let sinkConfigs ← entry entriesOf [] root "sink_configs"
  let topicConfig ← entry (textOf "") "" sinkConfigs "kafka"
  let metrics ← entry entriesOf [] root "metrics"
  let textfile ← entry (textOf "") "" metrics "textfile"
  let gateway ← entry (textOf "") "" metrics "pushgateway"
  let job ← entry (textOf "") "" metrics "job"
  let debug ← entry entriesOf [] root "debug"
  let printCounter ← entry (flagOf false) false debug "print_counter"
  return ⟨schemaVersion, ⟨kind, config⟩, ⟨type, address, timeoutMs, attempts, backoffMs⟩, sinks,
    topicConfig, ⟨textfile, gateway, job⟩, printCounter⟩

def unsupported (version : String) : Fault :=
  .plain ("pipeline schema_version " ++ Text.quote version ++ " not supported (want "
    ++ Text.quote Settings.supportedSchema ++ ")")

def withDefaults (spec : Spec) : Spec :=
  { spec with
    source := { spec.source with kind := if spec.source.kind == "" then "stdin" else spec.source.kind }
    vector := { spec.vector with
      type := if spec.vector.type == "" then "passthrough" else spec.vector.type } }

def resolvePaths (directory : String) (spec : Spec) : Spec :=
  { spec with
    source := { spec.source with config := Path.resolve directory spec.source.config }
    topicConfig := Path.resolve directory spec.topicConfig }

def accept (path : String) (described : Spec) : Except Fault Spec :=
  let version := if described.schemaVersion == "" then Settings.supportedSchema
    else described.schemaVersion
  if version != Settings.supportedSchema then .error (unsupported version)
  else
    let spec := { described with schemaVersion := version }.withDefaults
    if spec.report.isEmpty then .ok (spec.resolvePaths (Path.directory path))
    else .error (.context ("pipeline " ++ path ++ ": ") (.invalid spec.report))

def load (files : Files) (path : String) : Except Fault Spec :=
  match files.read path with
  | .error fault => .error fault
  | .ok content =>
      match Node.read content with
      | none => malformed
      | some node =>
          match ofNode node with
          | .error fault => .error fault
          | .ok described => accept path described

end Spec

end OpcodeTable.Pipeline
