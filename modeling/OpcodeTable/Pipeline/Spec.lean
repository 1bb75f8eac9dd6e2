import OpcodeTable.Problem

set_option autoImplicit false

namespace OpcodeTable.Pipeline

structure SourceSpec where
  kind : String
  config : String
deriving DecidableEq, Repr

structure VectorSpec where
  type : String
  address : String
  timeoutMs : Int
  attempts : Int
  backoffMs : Int
deriving DecidableEq, Repr

structure MetricsSpec where
  textfile : String
  gateway : String
  job : String
deriving DecidableEq, Repr

structure Spec where
  schemaVersion : String
  source : SourceSpec
  vector : VectorSpec
  sinks : List String
  topicConfig : String
  metrics : MetricsSpec
  printCounter : Bool
deriving DecidableEq, Repr

def sourceKinds : List String := ["stdin", "file", "kafka"]

def vectorTypes : List String := ["passthrough", "grpc"]

def sinkNames : List String := ["stdout", "kafka"]

-- A rule on a choice says nothing about an empty text.
def choice (allowed : List String) (text : String) : Option Problem :=
  if text == "" || allowed.contains text then none else some .notAllowed

def required (text : String) : Option Problem := if text == "" then some .blank else none

def field (name : String) (problem : Option Problem) : List (String × Problem) :=
  match problem with
  | some found => [(name, found)]
  | none => []

def section? (report : Report) : Option Problem :=
  if report.isEmpty then none else some (.parts report)

def SourceSpec.report (source : SourceSpec) : Report :=
  .ofList (field "Kind" (required source.kind <|> choice sourceKinds source.kind))

def VectorSpec.report (vector : VectorSpec) : Report :=
  .ofList (field "Type" (required vector.type <|> choice vectorTypes vector.type)
    ++ field "Address" (if vector.type == "grpc" then required vector.address else none)
    ++ field "TimeoutMS" (if vector.timeoutMs < 0 then some (.belowMinimum 0) else none))

def sinkProblems (sinks : List String) : List (String × Problem) :=
  sinks.zipIdx.flatMap fun (name, index) => field (toString index) (choice sinkNames name)

def sinksProblem (sinks : List String) : Option Problem :=
  if sinks.isEmpty then some .blank else section? (.ofList (sinkProblems sinks))

namespace Spec

def report (spec : Spec) : Report :=
  .ofList (field "Source" (section? spec.source.report)
    ++ field "Vector" (section? spec.vector.report)
    ++ field "Sinks" (sinksProblem spec.sinks))

def empty : Spec := ⟨"", ⟨"", ""⟩, ⟨"", "", 0, 0, 0⟩, [], "", ⟨"", "", ""⟩, false⟩

def standard : Spec :=
  { empty with
    schemaVersion := "v1"
    source := ⟨"stdin", ""⟩
    vector := ⟨"passthrough", "", 0, 0, 0⟩
    sinks := ["stdout"] }

end Spec

end OpcodeTable.Pipeline
