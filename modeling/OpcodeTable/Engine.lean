import OpcodeTable.Metrics.Publish
import OpcodeTable.Pipeline.Assembly
import OpcodeTable.Pipeline.Document

set_option autoImplicit false

namespace OpcodeTable

open Pipeline (Runner Site Scene Failed Spec)

structure Engine where
  runner : Runner

structure Executed where
  fault : Option Fault
  engine : Engine
  scene : Scene
  logs : List Log.Entry
  pushed : List Metrics.PushRequest

def Executed.stamp (executed : Executed) (moment : Metrics.Moment) (files : Files) : Executed :=
  let runner := executed.engine.runner
  { executed with
    engine := ⟨{ runner with metrics := runner.metrics.stamp moment }⟩
    scene := { executed.scene with files := files } }

namespace Engine

-- An empty path stands for the standard pipeline.
def describe (path : String) (files : Files) : Except Fault Spec :=
  if path.isEmpty then .ok .standard else Spec.load files path

def inPipeline (fault : Fault) : Fault := .context "pipeline: " fault

def bootstrap (path : String) (site : Site) (scene : Scene) : Except Failed Engine :=
  match describe path scene.files with
  | .error fault => .error ⟨inPipeline fault, [], scene.output, none⟩
  | .ok spec =>
      match Pipeline.build spec site scene with
      | .error failed => .error { failed with fault := inPipeline failed.fault }
      | .ok runner => .ok ⟨runner⟩

def execute (engine : Engine) (scene : Scene) (moment : Metrics.Moment) : Executed :=
  let ran := engine.runner.run scene moment
  let closed := ran.runner.close ran.scene.output
  let fault := match ran.fault with
    | some fault => Fault.join [some fault, closed.fault]
    | none => closed.fault.map (Fault.context "close: ")
  ⟨fault, ⟨closed.runner⟩, { ran.scene with output := closed.output }, ran.logs, []⟩

def unpublishedEntry (fault : Fault) : Log.Entry :=
  ⟨.warn, "engine: metrics not published", [("err", .text fault.message)]⟩

def publish (executed : Executed) (network : Pipeline.Network) : Executed :=
  match executed.fault with
  | some _ => executed
  | none =>
      let runner := executed.engine.runner
      let published := runner.metrics.publish runner.publishing
        (network.gateway runner.publishing.gateway) executed.scene.session.asker executed.scene.files
      { executed with
        scene := { executed.scene with files := published.files }
        logs := executed.logs ++ (published.fault.map unpublishedEntry).toList
        pushed := published.pushed }

def run (engine : Engine) (network : Pipeline.Network) (scene : Scene) (moment : Metrics.Moment) :
    Executed :=
  publish (engine.execute scene moment) network

def close (engine : Engine) (scene : Scene) : Option Fault × Engine × Scene :=
  let closed := engine.runner.close scene.output
  (closed.fault, ⟨closed.runner⟩, { scene with output := closed.output })

end Engine

end OpcodeTable
