import RequestTracing.Http.RequestAttributes
import RequestTracing.Layer.Basic
import RequestTracing.Span.Response
/-!
One request in a layer: its span and its labels, from the start of the request to its end.
-/
namespace RequestTracing

structure Request where
  environ : Environ
  span : Option Span
  activeLabels : Attributes
  durationLabels : Attributes

namespace Request

def isRecording (request : Request) (t : Telemetry) : Bool :=
  request.span.any (·.isRecording t)

def enter (request : Request) (t : Telemetry) : Telemetry :=
  match request.span with
  | some span => span.enter t
  | none => t

def leave (request : Request) (t : Telemetry) : Telemetry :=
  match request.span with
  | some span => span.leave t
  | none => t

def endSpan (request : Request) (status : Option SpanStatus) (t : Telemetry) :
    Request × Telemetry :=
  match request.span with
  | none => (request, t)
  | some span =>
    let (span, t) := match status with
      | some status => span.setStatus status t
      | none => (span, t)
    let (span, t) := span.finish t
    ({ request with span := none }, span.release t)

/-- Takes the status code of a response into the labels, if it has one. -/
def label (request : Request) (line : String) : Request :=
  { request with
    durationLabels := request.durationLabels.insertSome Http.statusCodeAttribute
      ((Http.statusCode? line).map .int) }

end Request

namespace Layer

def runRequestHook (layer : Layer) (environ : Environ) (span : Span) (t : Telemetry) :
    Span × Telemetry :=
  match layer.requestHook with
  | some hook => (hook environ).run span (t.emit .requestHook)
  | none => (span, t)

def runResponseHook (layer : Layer) (environ : Environ) (start : ResponseStart) (span : Span)
    (t : Telemetry) : Span × Telemetry :=
  match layer.responseHook with
  | some hook => (hook environ start).run span (t.emit .responseHook)
  | none => (span, t)

/-- Sets captured headers on a span, if it keeps updates and stands for a request that came in. -/
def setHeaders (headers : Attributes) (span : Span) (t : Telemetry) : Span × Telemetry :=
  if span.isRecordingServer t then span.setAttributes headers t else (span, t)

/-- Takes up a request: starts its span and counts it as active. -/
def begin (layer : Layer) (environ : Environ) (t : Telemetry) : Request × Telemetry :=
  let keepAll := layer.capture.allMethods
  let attributes := Http.requestAttributes environ keepAll
  let (span, t) := layer.tracer.start (Http.spanName environ keepAll) attributes environ t
  let (span, t) := setHeaders (layer.capture.requestAttributes environ) span t
  let (span, t) := layer.runRequestHook environ span t
  let request : Request :=
    { environ
      span := some span
      activeLabels := Http.activeLabels attributes
      durationLabels := Http.durationLabels attributes }
  (request, t.emit (layer.meter.active 1 request.activeLabels))

/-- Records the start of a response on the span, unless that has ended. -/
def annotateSpan (layer : Layer) (environ : Environ) (start : ResponseStart) (span : Span)
    (t : Telemetry) : Span × Telemetry :=
  let (span, t) := span.applyStatus start.status t
  let (span, t) := setHeaders (layer.capture.responseAttributes start.headers) span t
  layer.runResponseHook environ start span t

/-- Records the start of a response. The label for the status code is kept up to date also after
the span has ended. -/
def annotate (layer : Layer) (start : ResponseStart) (request : Request) (t : Telemetry) :
    Request × Telemetry :=
  let request := request.label start.status
  match request.span with
  | some span =>
    let (span, t) := layer.annotateSpan request.environ start span t
    ({ request with span := some span }, t)
  | none => (request, t)

/-- Ends the span and settles the metrics of a request. -/
def settle (layer : Layer) (status : Option SpanStatus) (request : Request) (t : Telemetry) :
    Request × Telemetry :=
  let (request, t) := request.endSpan status t
  (request, t.emitAll
    [layer.meter.duration none request.durationLabels,
      layer.meter.active (-1) request.activeLabels])

def failureRecord (layer : Layer) (environ : Environ) (failure : Failure) : LogRecord :=
  { level := .debug
    target := "environ_trace::middleware::lifecycle"
    message := "application failed"
    fields :=
      [{ name := "span", value := Http.spanName environ layer.capture.allMethods },
        { name := "error", value := failure }] }

def fail (layer : Layer) (failure : Failure) (request : Request) (t : Telemetry) :
    Request × Telemetry :=
  layer.settle (some (.error failure)) request
    (t.emit (.log (layer.failureRecord request.environ failure)))

end Layer

end RequestTracing
