import FullText.Fault
import FullText.OrderedMap

/-!
What is measured. Each measurement belongs to a series; `Metrics.summary` gathers the measurements
of every series, ordered by the name of the series.
-/

namespace FullText

/-- How a round trip ended. -/
inductive Status where
  | success
  /-- The store answered with an error that is understood. -/
  | fault
  | error
deriving DecidableEq, Repr

/-- The word for a status. -/
def Status.name : Status → String
  | .success => "success"
  | .fault => "fault"
  | .error => "error"

/-- One measurement. -/
inductive Metric where
  /-- A command made its round trip. -/
  | roundTrip (command : String) (status : Status)
  /-- The time of a round trip was taken. -/
  | timing (command : String)
  /-- A round trip ended in a fault. -/
  | fault (kind : FaultKind)
  /-- So many commands went out in one batch. -/
  | batchSize (commands : Nat)
  /-- A search brought so many documents. -/
  | searchResults (documents : Nat)
  /-- So many schemas are registered now. -/
  | registeredSchemas (count : Nat)
deriving DecidableEq, Repr

/-- What a series of measurements amounts to. -/
inductive Reading where
  | counter (n : Nat)
  /-- The last value. -/
  | gauge (value : Nat)
  /-- How many times were taken. -/
  | timings (n : Nat)
  /-- The values in order. -/
  | samples (values : List Nat)
deriving DecidableEq, Repr

namespace Metric

/-- The name of a series with its labels in braces. -/
def seriesName (name : String) (labels : List (String × String)) : String :=
  let label (pair : String × String) := pair.1 ++ "=" ++ pair.2
  name ++ "\x7b" ++ String.intercalate "," (labels.map label) ++ "\x7d"

/-- The series that a measurement belongs to. -/
def series : Metric → String
  | .roundTrip command status =>
    seriesName "ftquery_commands_total" [("command", command), ("status", status.name)]
  | .timing command => seriesName "ftquery_command_seconds" [("command", command)]
  | .fault kind => seriesName "ftquery_faults_total" [("kind", kind.name)]
  | .batchSize _ => seriesName "ftquery_pipeline_size" []
  | .searchResults _ => seriesName "ftquery_search_results" []
  | .registeredSchemas _ => seriesName "ftquery_registered_schemas" []

/-- The reading of a series after one more measurement. -/
def addTo (metric : Metric) (before : Option Reading) : Reading :=
  match metric, before with
  | .roundTrip .., some (.counter n) => .counter (n + 1)
  | .roundTrip .., _ => .counter 1
  | .fault _, some (.counter n) => .counter (n + 1)
  | .fault _, _ => .counter 1
  | .timing _, some (.timings n) => .timings (n + 1)
  | .timing _, _ => .timings 1
  | .batchSize n, some (.samples values) => .samples (values ++ [n])
  | .batchSize n, _ => .samples [n]
  | .searchResults n, some (.samples values) => .samples (values ++ [n])
  | .searchResults n, _ => .samples [n]
  | .registeredSchemas n, _ => .gauge n

end Metric

namespace Metrics

/-- The readings of all series that were measured, in the order of their first measurements. -/
def readings (metrics : List Metric) : OrderedMap Reading :=
  metrics.foldl (fun m metric => m.put metric.series (metric.addTo (m.get? metric.series))) ∅

/-- The readings of all series that were measured, ordered by name. -/
def summary (metrics : List Metric) : List (String × Reading) :=
  (readings metrics).entries.mergeSort fun a b => decide (a.1 ≤ b.1)

end Metrics

end FullText
