import OpcodeTable.Engine
import OpcodeTable.Log.Handler

set_option autoImplicit false

namespace OpcodeTable

open Pipeline (Site Scene)

structure Exit where
  code : UInt8
  errors : String
  fault : Option Fault
  scene : Scene

namespace Command

def pipelinePath (environment : Settings.Environment) : String :=
  Settings.valueOf environment "OPTAB_PIPELINE"

-- The files that the command reads, as far as those read already tell.
def wanted (site : Site) (files : Files) : List String :=
  let path := pipelinePath site.environment
  match Engine.describe path files with
  | .error _ => [path]
  | .ok spec =>
      let named := match Settings.LineSettings.load files site.environment spec.source.config with
        | .ok settings => [settings.path]
        | .error _ => []
      [path, spec.source.config, spec.topicConfig] ++ named

def textfile (engine : Engine) : Option String :=
  let path := engine.runner.publishing.textfile
  if path.isEmpty then none else some path

def line (text : String) : String := if text.endsWith "\n" then text else text ++ "\n"

def prepare (site : Site) (scene : Scene) : Except Exit Engine :=
  match Engine.bootstrap (pipelinePath site.environment) site scene with
  | .ok engine => .ok engine
  | .error failed =>
      .error ⟨1, line ("bootstrap: " ++ failed.fault.message), some failed.fault,
        { scene with output := failed.output }⟩

def failedEntry (fault : Fault) : Log.Entry :=
  ⟨.error, "optab: run failed", [("err", .text fault.message)]⟩

def conclude (site : Site) (executed : Executed) : Exit :=
  let published := Engine.publish executed site.network
  let entries := published.logs ++ (published.fault.map failedEntry).toList
  { code := if published.fault.isSome then 1 else 0
    errors := (Log.Handler.ofEnvironment site.environment).write entries
    fault := published.fault
    scene := published.scene }

def run (site : Site) (scene : Scene) (moment : Metrics.Moment) : Exit :=
  match prepare site scene with
  | .error exit => exit
  | .ok engine => conclude site (engine.execute scene moment)

end Command

end OpcodeTable
