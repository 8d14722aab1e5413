import LogPipeline.Collections.Table
import LogPipeline.Telemetry.Metric

namespace LogPipeline

structure Series where
  metric : Metric
  /-- The labels in the order of their names. -/
  labels : List (String × String)
  deriving DecidableEq, Repr

def Series.text (s : Series) : String :=
  s.labels.foldl (fun out l => out ++ "|" ++ l.1 ++ "=" ++ l.2) s.metric.name

structure Export where
  counters : Table Series UInt64
  gauges : Table Series Nat
  histograms : Table Series (List Float)

namespace Export

def empty : Export := ⟨.empty, .empty, .empty⟩

instance : Inhabited Export := ⟨empty⟩

def count (e : Export) (s : Series) (n : UInt64) : Export :=
  { e with counters := e.counters.insert s ((e.counters.get? s).getD 0 + n) }

def gauge (e : Export) (s : Series) (n : Nat) : Export :=
  { e with gauges := e.gauges.insert s n }

def measure (e : Export) (s : Series) (x : Float) : Export :=
  { e with histograms := e.histograms.insert s ((e.histograms.get? s).getD [] ++ [x]) }

end Export

end LogPipeline
