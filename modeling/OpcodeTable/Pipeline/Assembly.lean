import OpcodeTable.Pipeline.Network
import OpcodeTable.Pipeline.Runner
import OpcodeTable.Settings.Lines
import OpcodeTable.Settings.Topics

set_option autoImplicit false

namespace OpcodeTable.Pipeline

structure Site where
  environment : Settings.Environment
  input : Source.Stream
  network : Network
  -- Sinks that are known by name only.
  otherSinks : List String

-- A pipeline that could not be finished, with the parts attached so far, and a client that was turned
-- away because it does not serve, as it was left.
structure Unfinished where
  fault : Fault
  runner : Runner
  rejected : Option Vector.Connection

structure Failed where
  fault : Fault
  released : List Part
  output : Sink.Device
  rejected : Option Vector.Connection

def inSource (kind : String) (fault : Fault) : Fault := .context ("source " ++ kind ++ ": ") fault

def openSource (spec : SourceSpec) (site : Site) (files : Files) : Except Fault RowSource :=
  if spec.kind == "kafka" then
    match Settings.loadSourceTopic files site.environment spec.config with
    | .error fault => .error (inSource spec.kind fault)
    | .ok settings => .ok (.topic (.ofSettings settings))
  else
    match Source.Lines.named spec.kind site.input with
    | .error fault => .error fault
    | .ok source => .ok (.lines source)

def RowSource.configure (source : RowSource) (network : Network)
    (settings : Settings.LineSettings) : Option Fault × RowSource :=
  match source with
  | .lines source => (none, .lines (source.configure settings.path settings.limit))
  | .topic source =>
      match source.configure network.feed settings.limit with
      | (fault, after) => (fault, .topic after)
  | .memory source => (none, .memory source)

def attachSource (spec : SourceSpec) (site : Site) (files : Files) (runner : Runner) :
    Except Unfinished Runner :=
  match Settings.LineSettings.load files site.environment spec.config with
  | .error fault => .error ⟨inSource spec.kind fault, runner, none⟩
  | .ok settings =>
      match openSource spec site files with
      | .error fault => .error ⟨fault, runner, none⟩
      | .ok source =>
          match source.configure site.network settings with
          | (some fault, after) =>
              .error ⟨inSource spec.kind fault, { runner with source := some after }, none⟩
          | (none, after) => .ok { runner with source := some after }

def VectorSpec.policy (spec : VectorSpec) : Vector.Policy :=
  .ofMillis spec.timeoutMs spec.attempts spec.backoffMs

def unhealthy (address : String) (fault : Fault) : Fault :=
  .context ("vector: " ++ address ++ ": ") fault

def undialled (address : String) (fault : Fault) : Fault :=
  .context ("vector: dial " ++ address ++ ": ") fault

def unsupported (type : String) : Fault :=
  .plain ("unsupported vector rewriter type " ++ Text.quote type)

def attachVector (spec : VectorSpec) (site : Site) (session : Vector.Session) (runner : Runner) :
    Except Unfinished Runner :=
  if spec.type == "passthrough" || spec.type == "" then
    .ok { runner with vector := .passthrough, policy := spec.policy }
  else if spec.type == "grpc" then
    match Vector.Target.ofText spec.address with
    | .error fault => .error ⟨undialled spec.address fault, runner, none⟩
    | .ok target =>
        let connection : Vector.Connection := .dial target (site.network.server spec.address)
        match connection.health session with
        | none => .ok { runner with vector := .remote connection, policy := spec.policy }
        | some fault =>
            .error ⟨unhealthy spec.address fault,
              { runner with released := runner.released ++ [.unhealthyClient] }, connection.close.2⟩
  else .error ⟨unsupported spec.type, runner, none⟩

def inSink (name : String) (fault : Fault) : Fault := .context ("sink " ++ name ++ ": ") fault

def noBlock (name : String) : Fault := .plain ("no config block for sink " ++ Text.quote name)

def openTopicSink (spec : Spec) (site : Site) (files : Files) : Except Fault RowSink :=
  match Settings.loadSinkTopic files site.environment spec.topicConfig with
  | .error fault => .error fault
  | .ok settings =>
      match (Sink.Topic.onto site.network.exchange).configure settings with
      | (some fault, _, _) => .error fault
      | (none, _, sink) => .ok (.topic sink)

def openSink (spec : Spec) (site : Site) (files : Files) (name : String) : Except Fault RowSink :=
  match Sink.Kind.ofName name with
  | .error fault =>
      .error (if site.otherSinks.contains name then inSink name (noBlock name) else fault)
  | .ok .console => .ok (.console ((Sink.Console.onto .unlimited).configure spec.printCounter))
  | .ok .topic =>
      match openTopicSink spec site files with
      | .error fault => .error (inSink name fault)
      | .ok sink => .ok sink

def attachSinks (spec : Spec) (site : Site) (files : Files) :
    List String → Runner → Except Unfinished Runner
  | [], runner => .ok runner
  | name :: rest, runner =>
      match openSink spec site files name with
      | .error fault => .error ⟨fault, runner, none⟩
      | .ok sink => attachSinks spec site files rest (runner.addSink sink)

def assemble (spec : Spec) (site : Site) (scene : Scene) : Except Unfinished Runner := do
  let runner ← attachSource spec.source site scene.files .empty
  let runner ← attachVector spec.vector site scene.session runner
  let runner ← attachSinks spec site scene.files spec.sinks runner
  return { runner with publishing := spec.metrics }

def build (spec : Spec) (site : Site) (scene : Scene) : Except Failed Runner :=
  match assemble spec site scene with
  | .ok runner => .ok runner
  | .error unfinished =>
      let closed := unfinished.runner.close scene.output
      .error ⟨unfinished.fault, closed.runner.released, closed.output, unfinished.rejected⟩

end OpcodeTable.Pipeline
