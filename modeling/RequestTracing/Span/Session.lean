import RequestTracing.Tracer
/-!
Sessions with spans: spans are started under names, updated, entered and left, and let go of. A span
lives as long as it has its name or has been entered and not left.
-/
namespace RequestTracing

inductive SpanStep where
  /-- Starts a span for a request; another span of the name is let go of. -/
  | start (name : String) (spanName : String) (attributes : Attributes) (environ : Environ)
  | enter (name : String)
  | leave
  | act (name : String) (action : SpanAction)
  | setAttributes (name : String) (attributes : Attributes)
  | drop (name : String)

structure SpanSession where
  telemetry : Telemetry := {}
  spans : List Span := []
  names : Dictionary Nat := .empty
  /-- The spans that were entered and not left, the latest first. -/
  scopes : List Nat := []

namespace SpanSession

def span? (session : SpanSession) (name : String) : Option (Nat × Span) :=
  (session.names.get? name).bind fun i => (session.spans[i]?).map (i, ·)

def isHeld (session : SpanSession) (i : Nat) : Bool :=
  session.names.entries.any (·.2 == i) || session.scopes.any fun j =>
    j = i && (session.spans[i]?).any (·.isAttached)

def release (session : SpanSession) (i : Nat) : SpanSession :=
  if session.isHeld i then session
  else match session.spans[i]? with
    | some span => { session with telemetry := span.release session.telemetry }
    | none => session

def update (session : SpanSession) (name : String) (change : Span → Telemetry → Span × Telemetry) :
    SpanSession :=
  match session.span? name with
  | some (i, span) =>
    let (span, telemetry) := change span session.telemetry
    { session with telemetry, spans := session.spans.set i span }
  | none => session

def forget (session : SpanSession) (name : String) : SpanSession :=
  match session.names.get? name with
  | some i => { session with names := session.names.erase name }.release i
  | none => session

/-- Leaves the span that was entered last, and tells whether it was current. -/
def leave (session : SpanSession) : Option Bool × SpanSession :=
  match session.scopes with
  | [] => (none, session)
  | i :: scopes =>
    match session.spans[i]? with
    | some span =>
      let session := { session with telemetry := span.leave session.telemetry, scopes }
      (some span.isAttached, session.release i)
    | none => (none, { session with scopes })

/-- Makes one step with the spans of a tracer. The answer tells of a span that was left whether it
was current. -/
def step (tracer : Tracer) (session : SpanSession) : SpanStep → Option Bool × SpanSession
  | .start name spanName attributes environ =>
    let (span, telemetry) := tracer.start spanName attributes environ session.telemetry
    let session := { session with telemetry }.forget name
    (none, { session with
      spans := session.spans ++ [span]
      names := session.names.insert name session.spans.length })
  | .enter name =>
    match session.span? name with
    | some (i, span) =>
      (none, { session with
        telemetry := span.enter session.telemetry
        scopes := i :: session.scopes })
    | none => (none, session)
  | .leave => session.leave
  | .act name action => (none, session.update name fun span => span.act action)
  | .setAttributes name attributes =>
    (none, session.update name fun span => span.setAttributes attributes)
  | .drop name => (none, session.forget name)

def isRecording? (session : SpanSession) (name : String) : Option Bool :=
  (session.span? name).map fun (_, span) => span.isRecording session.telemetry

/-- Leaves all spans, the latest first, and lets go of all names in ascending order. -/
def finish (session : SpanSession) : SpanSession :=
  let session := session.scopes.foldl (fun session _ => session.leave.2) session
  session.names.keys.foldl forget session

end SpanSession

end RequestTracing
