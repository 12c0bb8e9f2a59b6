import RequestTracing.Span.Basic
/-!
Tracers, which start the spans of requests.
-/
namespace RequestTracing

inductive Tracer where
  | observer (kind : SpanKind)
  | log
  /-- Starts spans of distributed traces. Without a propagator of its own it uses that of the
  process. A tracer that does not export starts spans that only stand for their parents. -/
  | distributed (exporting : Bool) (propagator : Option Propagator)
  deriving DecidableEq, Repr

namespace Tracer

def passive : Tracer := .distributed false none

/-- The parent of a new span and its kind. Within a current span it is a part of that one; otherwise
it continues the trace that the headers name. -/
def parent (propagator : Propagator) (environ : Environ) (t : Telemetry) :
    Option SpanContext × SpanKind :=
  match t.current? with
  | some current => (some current, .internal)
  | none => (propagator.extract? environ <|> t.active?, .server)

def start (tracer : Tracer) (name : String) (attributes : Attributes) (environ : Environ)
    (t : Telemetry) : Span × Telemetry :=
  match tracer with
  | .observer kind =>
    let number := t.observedSpans
    (.observed number kind,
      { t with observedSpans := number + 1 }.emit
        (.startSpan number name attributes (Carrier.listing environ)))
  | .log =>
    let (span, t) := LoggedSpan.start name attributes t
    (.logged span, t)
  | .distributed exporting own =>
    let (parent, kind) := parent (own.getD t.propagator) environ t
    if exporting then
      let (span, t) := DistributedSpan.start name kind attributes parent t
      (.distributed span, t)
    else (.distributed (DistributedSpan.startPassive kind parent), t)

end Tracer

end RequestTracing
