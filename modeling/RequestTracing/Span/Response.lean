import RequestTracing.Http.StatusLine
import RequestTracing.Span.Basic
/-!
The status line of a response on the span of its request.
-/
namespace RequestTracing.Span

/-- Records a status line on a span that keeps updates: the code and the outcome that it stands
for, or a failure if there is no code. -/
def applyStatus (span : Span) (line : String) (t : Telemetry) : Span × Telemetry :=
  if span.isRecording t then
    match Http.statusCode? line with
    | some code =>
      let (span, t) := span.setAttribute Http.statusCodeAttribute (.int code) t
      span.setStatus (Http.statusOutcome code true) t
    | none => span.setStatus (Http.unreadableStatus line) t
  else (span, t)

end RequestTracing.Span
