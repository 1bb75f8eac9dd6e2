import OpcodeTable.Settings.Loose
import OpcodeTable.Source.Lines

set_option autoImplicit false

namespace OpcodeTable.Settings

structure LineSettings where
  path : String
  limit : Int
deriving DecidableEq, Repr

namespace LineSettings

def ofLayer (layer : Layer) : Except Fault LineSettings := do
  let path ← read asText "" layer "path"
  let limit ← read (asInteger 64) 0 layer "max_line_bytes"
  return ⟨path, Source.effectiveLimit limit⟩

def environmentLayer (environment : Environment) : Layer :=
  ofEnvironment "OPTAB_SOURCE__" [] environment

def load (files : Files) (environment : Environment) (path : String) :
    Except Fault LineSettings := do
  let layer ← ofFile files path
  checkSchema "source" layer
  ofLayer (overlay layer (environmentLayer environment))

end LineSettings

end OpcodeTable.Settings
