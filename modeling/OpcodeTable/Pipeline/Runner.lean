import OpcodeTable.Batch
import OpcodeTable.Metrics.Registry
import OpcodeTable.Pipeline.Part
import OpcodeTable.Pipeline.Spec
import OpcodeTable.Vector.Client

set_option autoImplicit false

namespace OpcodeTable.Pipeline

open Sink (Device)

structure Scene where
  files : Files
  output : Device
  session : Vector.Session

-- A part that was closed. A client that turned out to be unhealthy never became part of a pipeline.
inductive Part where
  | unhealthyClient
  | source
  | vector
  | sink (place : Nat)
deriving DecidableEq, Repr

structure Runner where
  source : Option RowSource
  vector : Vector.Client
  policy : Vector.Policy
  sinks : List (Slot RowSink)
  metrics : Metrics.Registry
  publishing : MetricsSpec
  closed : Bool
  released : List Part

structure Ran where
  fault : Option Fault
  tally : Tally
  runner : Runner
  scene : Scene
  logs : List Log.Entry

structure Closed where
  fault : Option Fault
  runner : Runner
  output : Device

namespace Runner

def empty : Runner :=
  { source := none
    vector := .passthrough
    policy := .none
    sinks := []
    metrics := .start
    publishing := ⟨"", "", ""⟩
    closed := false
    released := [] }

def addSink (runner : Runner) (sink : RowSink) : Runner :=
  { runner with sinks := runner.sinks ++ [.fresh sink] }

def rewrite (runner : Runner) (row : Bytes) (session : Vector.Session) :
    Batch.Answer Vector.Session :=
  let rewritten := runner.vector.rewrite runner.policy row session
  ⟨rewritten.result, rewritten.session, rewritten.logs⟩

def completeEntry (tally : Tally) : Log.Entry :=
  ⟨.info, "pipeline: run complete",
    [("read", .number tally.read), ("written", .number tally.written),
      ("vector", .number tally.vector), ("dropped", .number tally.droppedTotal)]⟩

def noSource : Fault := .plain "runner: no source configured"

def handOver (runner : Runner) (scene : Scene) (moment : Metrics.Moment) (tally : Tally)
    (rows : List Bytes) (logs : List Log.Entry) : Ran :=
  let delivered := deliver RowSink.behaviour (numbered rows) runner.sinks scene.output
  let runner := { runner with sinks := delivered.slots }
  let scene := { scene with output := delivered.shared }
  match delivered.fault with
  | some fault => ⟨some (.context "sink: " fault), tally, runner, scene, logs⟩
  | none =>
      match runner.metrics.observe (.ofTally tally) moment with
      | (some fault, metrics) => ⟨some fault, tally, { runner with metrics := metrics }, scene, logs⟩
      | (none, metrics) =>
          ⟨none, tally, { runner with metrics := metrics }, scene, logs ++ [completeEntry tally]⟩

def process (runner : Runner) (scene : Scene) (moment : Metrics.Moment) (rows : List Bytes)
    (logs : List Log.Entry) : Ran :=
  let result := Batch.transform (some runner.rewrite) rows scene.session
  let scene := { scene with session := result.state }
  let logs := logs ++ result.logs
  match result.outcome with
  | .error fault => ⟨some (.context "transform: " fault), result.tally, runner, scene, logs⟩
  | .ok rows => runner.handOver scene moment result.tally rows logs

def run (runner : Runner) (scene : Scene) (moment : Metrics.Moment) : Ran :=
  match runner.source with
  | none => ⟨some noSource, .zero, runner, scene, []⟩
  | some source =>
      match source.run scene.files scene.session.asker with
      | (report, after) =>
          let runner := { runner with source := some after }
          match report.fault with
          | some fault => ⟨some (.context "source: " fault), .zero, runner, scene, report.logs⟩
          | none => runner.process scene moment report.rows report.logs

def closeSource (runner : Runner) : Option Fault × Runner :=
  match runner.source with
  | none => (none, runner)
  | some source =>
      match source.close with
      | (fault, after) =>
          (fault, { runner with source := some after, released := runner.released ++ [.source] })

def closeVector (runner : Runner) : Option Fault × Runner :=
  match runner.vector.close with
  | (fault, after) =>
      (fault, { runner with vector := after, released := runner.released ++ [.vector] })

def closeSinks (runner : Runner) (output : Device) : Closed :=
  let closed := closeSlots RowSink.behaviour 0 runner.sinks output
  { fault := closed.fault
    runner := { runner with
      sinks := closed.slots
      released := runner.released ++ closed.places.map .sink }
    output := closed.shared }

def close (runner : Runner) (output : Device) : Closed :=
  if runner.closed then ⟨none, runner, output⟩
  else
    match runner.closeSource with
    | (sourceFault, runner) =>
        match runner.closeVector with
        | (vectorFault, runner) =>
            let closed := runner.closeSinks output
            { closed with
              fault := Fault.join [sourceFault, vectorFault, closed.fault]
              runner := { closed.runner with closed := true } }

end Runner

end OpcodeTable.Pipeline
