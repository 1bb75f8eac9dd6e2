import OpcodeTable.Decimal.Shortest
import OpcodeTable.Metrics.Registry

set_option autoImplicit false

namespace OpcodeTable.Metrics

open Decimal (Binary64 Layout)

inductive Kind where
  | counter
  | gauge

def Kind.name : Kind → String
  | .counter => "counter"
  | .gauge => "gauge"

structure Family where
  name : String
  help : String
  kind : Kind
  samples : List (String × Binary64)

namespace Family

def text (family : Family) : String :=
  let name := "optab_" ++ family.name
  "# HELP " ++ name ++ " " ++ family.help ++ "\n# TYPE " ++ name ++ " " ++ family.kind.name ++ "\n"
    ++ String.join (family.samples.map fun (label, value) =>
      name ++ label ++ " " ++ Layout.general.write value ++ "\n")

end Family

def reasonLabel (reason : String) : String := "\x7breason=\"" ++ reason ++ "\"\x7d"

namespace Registry

def reasons (registry : Registry) : List (String × Counter) :=
  registry.dropped.mergeSort fun a b => a.1 ≤ b.1

def families (registry : Registry) : List Family := [
  ⟨"last_success_timestamp_seconds", "Unix time the last run completed.", .gauge,
    [("", registry.lastSuccess)]⟩,
  ⟨"lines_dropped_total", "Rows left out of the output, by reason.", .counter,
    registry.reasons.map fun (reason, counter) => (reasonLabel reason, counter.reading)⟩,
  ⟨"lines_read_total", "Rows read from the source.", .counter, [("", registry.read.reading)]⟩,
  ⟨"lines_written_total", "Rows handed to the sinks.", .counter, [("", registry.written.reading)]⟩,
  ⟨"run_duration_seconds", "Wall time of the last run.", .gauge, [("", registry.duration)]⟩,
  ⟨"vector_lines_total", "Rows routed to the vector rewriter.", .counter,
    [("", registry.vector.reading)]⟩]

def exposition (registry : Registry) : String := String.join (registry.families.map Family.text)

end Registry

end OpcodeTable.Metrics
