import OpcodeTable.Files
import OpcodeTable.Text.Quoted
import OpcodeTable.Yaml.Decoding
import OpcodeTable.Yaml.Document

set_option autoImplicit false

namespace OpcodeTable.Settings

open Yaml (Value Node)

abbrev Layer := List (String × Value)

abbrev Environment := List (String × String)

def valueOf (environment : Environment) (name : String) : String :=
  (environment.lookup name).getD ""

def set (key : String) (value : Value) : Layer → Layer
  | [] => [(key, value)]
  | (name, old) :: rest =>
      if name == key then (key, value) :: rest else (name, old) :: set key value rest

mutual
def replacing (old : Option Value) : Value → Value
  | .table entries =>
      match old with
      | some (.table base) => .table (overlay base entries)
      | _ => .table entries
  | value => value

def overlay (base : Layer) : List (String × Value) → Layer
  | [] => base
  | (key, value) :: rest => overlay (set key (replacing (base.lookup key) value) base) rest
end

def plant (text : String) : List String → Layer → Layer
  | [], layer => layer
  | [name], layer => set name (.text text) layer
  | name :: rest, layer =>
      let below := match layer.lookup name with
        | some (.table entries) => entries
        | _ => []
      set name (.table (plant text rest below)) layer

-- The variables that start with `mark`, by the path of names that the rest of each spells. Names
-- are divided by two underscores; deeper paths come first, so that a shorter one wins.
def bindings (mark : String) (root : List String) (environment : Environment) :
    List (List String × String) :=
  let paths := environment.filterMap fun (name, text) =>
    if name.startsWith mark then
      let spelled := (name.drop mark.length).toString.map Unicode.lower
      if root.isEmpty && spelled.isEmpty then none else some (root ++ spelled.splitOn "__", text)
    else none
  paths.mergeSort fun a b => b.1.length ≤ a.1.length

def ofEnvironment (mark : String) (root : List String) (environment : Environment) : Layer :=
  (bindings mark root environment).foldl (fun layer (path, text) => plant text path layer) []

def ofFile (files : Files) (path : String) : Except Fault Layer :=
  if path.isEmpty then .ok []
  else
    match files.read (Path.clean path) with
    | .error fault => if fault.isMissingFile then .ok [] else .error fault
    | .ok content =>
        match (Node.read content).bind Node.table? with
        | some layer => .ok layer
        | none => .error .malformedDocument

def schemaVersion (layer : Layer) : String :=
  match layer.lookup "schema_version" with
  | none | some .null => ""
  | some value => value.display

def supportedSchema : String := "v1"

def unsupported (kind version : String) : Fault :=
  .plain (kind ++ " schema_version " ++ Text.quote version ++ " not supported (want v1)")

-- The version is settled by the file alone.
def checkSchema (kind : String) (layer : Layer) : Except Fault Unit :=
  let version := schemaVersion layer
  if version == "" || version == supportedSchema then .ok () else .error (unsupported kind version)

end OpcodeTable.Settings
