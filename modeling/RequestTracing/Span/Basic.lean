import RequestTracing.Span.Distributed
import RequestTracing.Span.Logged
/-!
Spans of requests. A span is owned by one request; its operations change the span and the state
around it.
-/
namespace RequestTracing

inductive Span where
  /-- Reports every use as an event, also after its end. -/
  | observed (number : Nat) (kind : SpanKind)
  | logged (span : LoggedSpan)
  | distributed (span : DistributedSpan)

namespace Span

def isRecording (span : Span) (t : Telemetry) : Bool :=
  match span with
  | .observed _ _ => t.recording
  | .logged span => span.isRecording
  | .distributed span => span.isRecording

def kind : Span → SpanKind
  | .observed _ kind => kind
  | .logged _ => .server
  | .distributed span => span.kind

/-- Whether updates are kept and the span stands for a request that came in. -/
def isRecordingServer (span : Span) (t : Telemetry) : Bool :=
  span.isRecording t && span.kind = .server

def setAttribute (span : Span) (name : String) (value : AttributeValue) (t : Telemetry) :
    Span × Telemetry :=
  match span with
  | .observed number _ => (span, t.emit (.setAttribute number name value))
  | .logged s => (.logged (s.setAttribute name value), t)
  | .distributed s => (.distributed (s.setAttribute name value), t)

def setAttributes (span : Span) (attributes : Attributes) (t : Telemetry) : Span × Telemetry :=
  attributes.entries.foldl (fun (span, t) (name, value) => span.setAttribute name value t) (span, t)

def setStatus (span : Span) (status : SpanStatus) (t : Telemetry) : Span × Telemetry :=
  match span with
  | .observed number _ => (span, t.emit (.setStatus number status))
  | .logged s => (.logged (s.setStatus status), t)
  | .distributed s => (.distributed (s.setStatus status), t)

def finish (span : Span) (t : Telemetry) : Span × Telemetry :=
  match span with
  | .observed number _ => (span, t.emit (.endSpan number))
  | .logged s => let (s, t) := s.finish t; (.logged s, t)
  | .distributed s => let (s, t) := s.finish t; (.distributed s, t)

def isAttached : Span → Bool
  | .distributed _ => true
  | _ => false

def enter (span : Span) (t : Telemetry) : Telemetry :=
  match span with
  | .observed number _ => t.emit (.enterSpan number)
  | .logged _ => t
  | .distributed s => t.enter s.context

def leave (span : Span) (t : Telemetry) : Telemetry :=
  if span.isAttached then t.leave else t

/-- Lets go of a span for good: one of a distributed trace ends if it has not ended before. -/
def release (span : Span) (t : Telemetry) : Telemetry :=
  match span with
  | .distributed s => (s.finish t).2
  | _ => t

end Span

/-- An update of a span. -/
inductive SpanAction where
  | setAttribute (name : String) (value : AttributeValue)
  | setStatus (status : SpanStatus)
  | finish
  /-- Turns the keeping of updates on or off for spans that report their use. -/
  | setRecording (on : Bool)
  deriving DecidableEq

namespace Span

def act (span : Span) (action : SpanAction) (t : Telemetry) : Span × Telemetry :=
  match action with
  | .setAttribute name value => span.setAttribute name value t
  | .setStatus status => span.setStatus status t
  | .finish => span.finish t
  | .setRecording on => (span, { t with recording := on })

def actAll (span : Span) (actions : List SpanAction) (t : Telemetry) : Span × Telemetry :=
  actions.foldl (fun (span, t) action => span.act action t) (span, t)

end Span

/-- What a hook does with the span that it is given: updates, and in between looks at whether the
span keeps them and at its kind. -/
inductive SpanRoutine where
  | done
  | act (action : SpanAction) (rest : SpanRoutine)
  | look (rest : Bool → SpanKind → SpanRoutine)

namespace SpanRoutine

def run : SpanRoutine → Span → Telemetry → Span × Telemetry
  | .done, span, t => (span, t)
  | .act action rest, span, t =>
    let (span, t) := span.act action t
    rest.run span t
  | .look rest, span, t => (rest (span.isRecording t) span.kind).run span t

def ofActions : List SpanAction → SpanRoutine
  | [] => .done
  | action :: rest => .act action (ofActions rest)

instance : Coe (List SpanAction) SpanRoutine := ⟨ofActions⟩

end SpanRoutine

end RequestTracing
