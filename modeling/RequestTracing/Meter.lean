import RequestTracing.Telemetry
/-!
Metrics of requests: the number of active requests and the duration of each.
-/
namespace RequestTracing

inductive Meter where
  | observer
  /-- Measures with two named instruments whose labels are text. -/
  | instruments
  deriving DecidableEq, Repr

namespace Meter

def durationInstrument : Instrument :=
  { name := "http.server.duration"
    isGauge := false
    unit := "milliseconds"
    description := "Duration of inbound HTTP requests." }

def activeInstrument : Instrument :=
  { name := "http.server.active_requests"
    isGauge := true
    unit := "count"
    description := "Number of concurrent HTTP requests that are currently in-flight." }

/-- The descriptions of the instruments, given once before they are used. -/
def descriptions : Meter → List Event
  | .observer => []
  | .instruments => [.describe durationInstrument, .describe activeInstrument]

def labelTexts (labels : Attributes) : List (String × String) :=
  labels.entries.map fun (name, value) => (name, value.display)

def active (meter : Meter) (delta : Int) (labels : Attributes) : Event :=
  match meter with
  | .observer => .active delta labels
  | .instruments => .gauge activeInstrument.name (labelTexts labels) delta

/-- A record of the duration of a request; without a value it is the time that really passed. -/
def duration (meter : Meter) (value : Option Nat) (labels : Attributes) : Event :=
  match meter with
  | .observer => .duration labels
  | .instruments => .histogram durationInstrument.name (labelTexts labels) value

end Meter

end RequestTracing
