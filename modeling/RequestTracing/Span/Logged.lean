import RequestTracing.Telemetry
/-!
Spans that are kept in memory and written to the log when they end.
-/
namespace RequestTracing

structure LoggedSpan where
  name : String
  attributes : Attributes
  status : SpanStatus := .unset
  ended : Bool := false

namespace LoggedSpan

def target : String := "environ_trace::span"

def startRecord (name : String) : LogRecord :=
  { level := .debug
    target
    message := "span started"
    fields := [{ name := "span", value := name, inQuotes := true }] }

/-- The record of a span's end: a warning if the span failed. -/
def endRecord (span : LoggedSpan) : LogRecord :=
  let name : LogField := { name := "span", value := span.name }
  let attributes : LogField := { name := "attributes", value := span.attributes.display }
  match span.status with
  | .error description =>
    { level := .warn
      target
      message := "span ended with error"
      fields := [name, { name := "error", value := description }, attributes] }
  | _ => { level := .info, target, message := "span ended", fields := [name, attributes] }

def start (name : String) (attributes : Attributes) (t : Telemetry) : LoggedSpan × Telemetry :=
  ({ name, attributes }, t.emit (.log (startRecord name)))

def isRecording (span : LoggedSpan) : Bool :=
  !span.ended

def setAttribute (span : LoggedSpan) (name : String) (value : AttributeValue) : LoggedSpan :=
  if span.ended then span else { span with attributes := span.attributes.insert name value }

def setStatus (span : LoggedSpan) (status : SpanStatus) : LoggedSpan :=
  if span.ended then span else { span with status }

def finish (span : LoggedSpan) (t : Telemetry) : LoggedSpan × Telemetry :=
  if span.ended then (span, t)
  else ({ span with ended := true }, t.emit (.log span.endRecord))

end LoggedSpan

end RequestTracing
