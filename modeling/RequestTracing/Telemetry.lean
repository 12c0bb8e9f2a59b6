import RequestTracing.Event
import RequestTracing.Trace.Propagation
/-!
The state that all requests of a process share: the events so far, the spans that are current, and
the counters of whoever hands out identifiers.
-/
namespace RequestTracing

/-- A span as it is exported when it ends. -/
structure ExportedSpan where
  name : String
  kind : SpanKind
  context : SpanContext
  /-- The span that it is a part of, zero for none. -/
  parent : BitVec 64
  status : SpanStatus
  /-- The attributes in the order in which they were set; a name may repeat. -/
  attributes : List (String × AttributeValue)
  deriving DecidableEq

structure Telemetry where
  events : List Event := []
  recording : Bool := true
  observedSpans : Nat := 0
  traceIds : Nat := 0
  spanIds : Nat := 0
  /-- The exported spans, in the order in which they ended. -/
  exported : List ExportedSpan := []
  /-- The spans that were made current, the latest first. -/
  entered : List SpanContext := []
  propagator : Propagator := .none

namespace Telemetry

instance : Inhabited Telemetry := ⟨{}⟩

def emit (t : Telemetry) (event : Event) : Telemetry :=
  { t with events := t.events ++ [event] }

def emitAll (t : Telemetry) (events : List Event) : Telemetry :=
  events.foldl emit t

/-- The span that was made current last and has not been left. -/
def active? (t : Telemetry) : Option SpanContext :=
  t.entered.head?

def current? (t : Telemetry) : Option SpanContext :=
  t.active?.filter (·.isValid)

def enter (t : Telemetry) (context : SpanContext) : Telemetry :=
  { t with entered := context :: t.entered }

def leave (t : Telemetry) : Telemetry :=
  { t with entered := t.entered.tail }

end Telemetry

end RequestTracing
