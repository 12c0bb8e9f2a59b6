import RequestTracing.Proofs.Request.Accounts
import RequestTracing.Proofs.Span.Discreet
/-!
Requests whose spans do not report their uses, in layers whose hooks leave spans alone. All that is
known of such a span at any time are the starts of the response so far, and all that is noticed of
it is its end.
-/
namespace RequestTracing

/-- All that is noticed of the end of a span that does not report its uses depends on the span and
on the outcome that it is offered. -/
theorem Request.endSpan_of_unobserved {span : Span} (hspan : span.isObserved = false)
    (status : Option SpanStatus) :
    ∃ ends exports, ∀ request : Request, request.span = some span → ∀ t,
      (request.endSpan status t).1 = { request with span := none } ∧
      (request.endSpan status t).2.events = t.events ++ ends ∧
      (request.endSpan status t).2.exported = t.exported ++ exports := by
  have hended : ∃ last : Span, last.isObserved = false ∧
      ∀ request : Request, request.span = some span → ∀ t,
        request.endSpan status t = ({ request with span := none }, (last.finish t).2) := by
    cases status with
    | none =>
      exact ⟨span, hspan, fun request hrequest t => by simp [endSpan, hrequest]⟩
    | some status =>
      obtain ⟨last, hlast, _, hset⟩ := Span.isDiscreet_setStatus status span hspan
      exact ⟨last, hlast, fun request hrequest t => by simp [endSpan, hrequest, hset]⟩
  obtain ⟨last, hlast, hended⟩ := hended
  obtain ⟨ends, exports, hfinish⟩ := last.finish_of_unobserved hlast
  refine ⟨ends, exports, fun request hrequest t => ?_⟩
  rw [hended request hrequest t]
  exact ⟨rfl, hfinish t⟩

namespace Layer

variable (layer : Layer)

/-- The events of a call of the hook for responses that leaves the span alone. -/
def responseMarks : List Event :=
  if layer.responseHook.isSome then [.responseHook] else []

/-- What some starts of a response make of a span that does not report its uses. -/
def spanAfter (first : Span) (starts : List ResponseStart) : Span :=
  starts.foldl (fun span start => (layer.annotateSpan .empty start span {}).1) first

theorem spanAfter_append (first : Span) (starts : List ResponseStart) (start : ResponseStart) :
    layer.spanAfter first (starts ++ [start]) =
      (layer.annotateSpan .empty start (layer.spanAfter first starts) {}).1 := by
  simp [spanAfter]

variable {layer} (hsilent : layer.IsSilent)

include hsilent

/-- A start of the response is noted on the span, and nothing is noticed but the hook. -/
theorem annotateSpan_of_unobserved {span : Span} (hspan : span.isObserved = false)
    (start : ResponseStart) :
    ∃ next : Span, next.isObserved = false ∧
      (∀ t, next.isRecording t = span.isRecording t) ∧
      ∀ environ t, layer.annotateSpan environ start span t =
        (next, t.emitAll layer.responseMarks) := by
  obtain ⟨next, hnext, hrecording, hupdate⟩ :=
    (Span.isDiscreet_applyStatus start.status).comp
      (Span.isDiscreet_setHeaders (layer.capture.responseAttributes start.headers)) span hspan
  refine ⟨next, hnext, hrecording, fun environ t => ?_⟩
  have hnoted := hupdate t
  simp only [annotateSpan, runResponseHook_eq hsilent, hnoted]
  rfl

theorem annotateSpan_eq_next {span : Span} (hspan : span.isObserved = false) (environ : Environ)
    (start : ResponseStart) (t : Telemetry) :
    layer.annotateSpan environ start span t =
      ((layer.annotateSpan .empty start span {}).1, t.emitAll layer.responseMarks) := by
  obtain ⟨next, _, _, hall⟩ := annotateSpan_of_unobserved hsilent hspan start
  rw [hall, hall]

/-- Starts of the response leave a span keeping updates or not, and not reporting its uses. -/
theorem spanAfter_of_unobserved {first : Span} (hfirst : first.isObserved = false)
    (starts : List ResponseStart) :
    (layer.spanAfter first starts).isObserved = false ∧
      ∀ t, (layer.spanAfter first starts).isRecording t = first.isRecording t := by
  induction starts generalizing first with
  | nil => exact ⟨hfirst, fun _ => rfl⟩
  | cons start starts ih =>
    obtain ⟨next, hnext, hrecording, hall⟩ := annotateSpan_of_unobserved hsilent hfirst start
    have hafter : layer.spanAfter first (start :: starts) = layer.spanAfter next starts := by
      simp [spanAfter, hall]
    obtain ⟨hobserved, hlast⟩ := ih hnext
    rw [hafter]
    exact ⟨hobserved, fun t => (hlast t).trans (hrecording t)⟩

omit hsilent

/-- A request since some moment, with the starts of its response since then noted on its span. -/
structure Noted (layer : Layer) (environ : Environ) (first : Span) (t : Telemetry)
    (course : Course) : Prop where
  environ : course.request.environ = environ
  exported : course.telemetry.exported = t.exported
  span : ∃ new, course.telemetry.events = t.events ++ new ∧
    course.request.span = some (layer.spanAfter first (Event.starts new)) ∧
    new.filter (!·.isLate) = (Event.starts new).flatMap fun _ => layer.responseMarks

variable {environ : Environ} {first : Span} {t : Telemetry}

theorem Noted.quiet {course : Course} (h : layer.Noted environ first t course) (last : Course)
    (hrequest : last.request = course.request)
    (hexported : last.telemetry.exported = course.telemetry.exported)
    {more : List Event} (hmore : last.telemetry.events = course.telemetry.events ++ more)
    (hquiet : ∀ event ∈ more, event.isReport = true) : layer.Noted environ first t last := by
  obtain ⟨new, hnew, hnoted, hfiltered⟩ := h.span
  have hstarts : Event.starts (new ++ more) = Event.starts new := by
    rw [Event.starts_append, Event.starts_eq_nil fun event he =>
      Event.start?_eq_none_of_isReport (hquiet event he), List.append_nil]
  have hlate : more.filter (!·.isLate) = [] :=
    List.filter_eq_nil_iff.mpr fun event he => by simp [Event.isLate, hquiet event he]
  refine ⟨hrequest ▸ h.environ, hexported.trans h.exported, new ++ more, ?_, ?_, ?_⟩
  · rw [hmore, hnew, List.append_assoc]
  · rw [hrequest, hnoted, hstarts]
  · rw [List.filter_append, hlate, List.append_nil, hstarts, hfiltered]

variable (hfirst : first.isObserved = false)

include hfirst hsilent

theorem Noted.respond {course : Course} (h : layer.Noted environ first t course)
    (start : ResponseStart) : layer.Noted environ first t (layer.move course (.respond start)) := by
  obtain ⟨new, hnew, hnoted, hfiltered⟩ := h.span
  have hobserved := (spanAfter_of_unobserved hsilent hfirst (Event.starts new)).1
  have hcourse := layer.annotate_of_some hnoted start course.telemetry
  rw [annotateSpan_eq_next hsilent hobserved] at hcourse
  let told : Event := .server course.server.request start
  have hmarks : Event.starts layer.responseMarks = [] ∧
      layer.responseMarks.filter (!·.isLate) = layer.responseMarks := by
    unfold responseMarks
    split <;> exact ⟨rfl, rfl⟩
  have hstarts : Event.starts (new ++ (layer.responseMarks ++ [told])) =
      Event.starts new ++ [start] := by
    rw [Event.starts_append, Event.starts_append, hmarks.1]
    rfl
  refine ⟨?_, ?_, new ++ (layer.responseMarks ++ [told]), ?_, ?_, ?_⟩
  · simp [Layer.move, hcourse, Request.label, h.environ]
  · simpa [Layer.move, hcourse, Telemetry.emit, Telemetry.emitAll_eq] using h.exported
  · simp [Layer.move, hcourse, hnew, told]
  · rw [hstarts, spanAfter_append]
    simp [Layer.move, hcourse]
  · rw [hstarts, List.filter_append, List.filter_append, hmarks.2, hfiltered]
    simp [told, Event.isLate, Event.start?]

theorem upholds_noted : layer.Upholds (layer.Noted environ first t) where
  enter course h := by
    obtain ⟨new, hnew, hnoted, _⟩ := h.span
    have hobserved := (spanAfter_of_unobserved hsilent hfirst (Event.starts new)).1
    have hentered : (course.request.enter course.telemetry).events = course.telemetry.events := by
      cases hspan : layer.spanAfter first (Event.starts new) with
      | observed number kind => simp [hspan, Span.isObserved] at hobserved
      | logged span => simp [Request.enter, hnoted, hspan, Span.enter]
      | distributed span => simp [Request.enter, hnoted, hspan, Span.enter, Telemetry.enter]
    exact h.quiet (Layer.enter course) rfl (course.request.enter_exported _)
      (by simpa [Layer.enter] using hentered : _ = course.telemetry.events ++ []) (by simp)
  leave course before h :=
    h.quiet { course with telemetry := before.leave course.telemetry } rfl (by simp)
      (by simp : _ = course.telemetry.events ++ []) (by simp)
  move course move hown h := by
    cases move with
    | report events =>
      exact h.quiet (layer.move course (.report events)) rfl
        (by simp [Layer.move, Telemetry.emitAll_eq]) (course.telemetry.emitAll_events events) hown
    | respond start => exact h.respond hsilent hfirst start

omit hfirst hsilent

/-- A span that keeps no updates ends in one way, whatever outcome it is offered. -/
theorem conclude_of_not_isRecording {course : Course} {span : Span}
    (hspan : course.request.span = some span) (hobserved : span.isObserved = false)
    (hrecording : span.isRecording course.telemetry = false) (status : Option SpanStatus) :
    layer.conclude status course = layer.conclude none course := by
  cases status with
  | none => rfl
  | some status =>
    have hset := Span.setStatus_of_not_isRecording hobserved hrecording status
    simp [Layer.conclude, settle, Request.endSpan, hspan, hset]

theorem opening_noted (environ : Environ) (server : Server) (t : Telemetry) :
    layer.Noted environ (layer.readied environ t).1 (layer.opening environ server t).telemetry
      (layer.opening environ server t) :=
  ⟨rfl, rfl, [], by simp, by simp [opening, begin_eq, spanAfter, Event.starts], rfl⟩

theorem starts_since_opening {server : Server} {events new more : List Event}
    (hnew : events = t.events ++ new)
    (hmore : events = (layer.opening environ server t).telemetry.events ++ more) :
    Event.starts new = Event.starts more := by
  obtain ⟨opened, hopened, _⟩ := layer.readied_events environ t
  have hall : new = opened ++ [layer.meter.active 1 (layer.activeLabels environ)] ++ more := by
    refine List.append_cancel_left (?_ : t.events ++ new = t.events ++ _)
    rw [← hnew, hmore]
    simp [opening, begin_eq, hopened]
  rw [hall, Event.starts_append, layer.starts_counted hopened, List.nil_append]

theorem starts_told {course : Course} {failed : Option Failure} {new more : List Event}
    (hnew : course.telemetry.events = t.events ++ new)
    (hmore : (layer.told failed course).telemetry.events = t.events ++ more) :
    Event.starts more = Event.starts new := by
  have hall : more = new ++ layer.failureEvents course.request.environ failed := by
    refine List.append_cancel_left (?_ : t.events ++ more = t.events ++ _)
    rw [← hmore, told_events, hnew, List.append_assoc]
  rw [hall, Event.starts_append, starts_failureEvents, List.append_nil]

/-- The span of a request has noted all starts of its response since the request was taken up, and
telling of a failure adds none. -/
theorem Noted.told_span {server : Server} {course : Course}
    (h : layer.Noted environ first (layer.opening environ server t).telemetry course)
    (failed : Option Failure) {new : List Event}
    (hnew : (layer.told failed course).telemetry.events = t.events ++ new) :
    (layer.told failed course).request.span =
      some (layer.spanAfter first (Event.starts new)) := by
  obtain ⟨more, hmore, hspan, _⟩ := h.span
  have hcourse : (layer.told failed course).telemetry.events =
      (layer.opening environ server t).telemetry.events ++
        (more ++ layer.failureEvents course.request.environ failed) := by
    rw [told_events, hmore, List.append_assoc]
  rw [starts_since_opening hnew hcourse, Event.starts_append, starts_failureEvents, List.append_nil]
  exact hspan

theorem Noted.told_exported {course : Course} (h : layer.Noted environ first t course)
    (failed : Option Failure) :
    (layer.told failed course).telemetry.exported = t.exported := by
  simp [Layer.told, Telemetry.emitAll_eq, h.exported]

/-- The span of a request keeps updates or not, as it did at first. -/
theorem Noted.isRecording_span (hsilent : layer.IsSilent) (hfirst : first.isObserved = false)
    {course : Course} (h : layer.Noted environ first t course) :
    ∃ span, course.request.span = some span ∧ span.isObserved = false ∧
      ∀ t', span.isRecording t' = first.isRecording t' := by
  obtain ⟨new, _, hspan, _⟩ := h.span
  obtain ⟨hobserved, hall⟩ := spanAfter_of_unobserved hsilent hfirst (Event.starts new)
  exact ⟨_, hspan, hobserved, hall⟩

/-- It does not matter that a body that fails offers its failure only to a span that keeps
updates. -/
theorem Noted.conclude_lastStatus (hsilent : layer.IsSilent) (hfirst : first.isObserved = false)
    {last other : Course} (hlast : layer.Noted environ first t last)
    (hother : layer.Noted environ first t other) (failed cause : Option Failure) :
    layer.conclude (lastStatus failed cause other) (layer.told failed last) =
      layer.conclude (cause.map .error) (layer.told failed last) := by
  cases hnot : other.request.isRecording other.telemetry with
  | true =>
    have hcause : lastStatus failed cause other = cause.map .error := by
      cases cause <;> simp [lastStatus, hnot, Option.filter]
    rw [hcause]
  | false =>
    obtain ⟨span, hspan, hobserved, hall⟩ := hlast.isRecording_span hsilent hfirst
    obtain ⟨otherSpan, hotherSpan, _, hotherAll⟩ := hother.isRecording_span hsilent hfirst
    have hrecording : first.isRecording other.telemetry = false := by
      rw [← hotherAll]
      simpa [Request.isRecording, hotherSpan] using hnot
    have hlastRecording : span.isRecording (layer.told failed last).telemetry = false := by
      rw [hall, Span.isRecording_of_unobserved hfirst _ other.telemetry, hrecording]
    have htold : (layer.told failed last).request.span = some span := hspan
    have hsame (status : Option SpanStatus) : layer.conclude status (layer.told failed last) =
        layer.conclude none (layer.told failed last) :=
      conclude_of_not_isRecording htold hobserved hlastRecording status
    rw [hsame (lastStatus failed cause other), hsame (cause.map .error)]

/-- A request whose span does not report its uses is over with its last failure as the outcome. What
is kept while the application runs held of it until then. -/
theorem serve_noted {σ : Type} {Kept : Course → Prop} (hkept : layer.Upholds Kept)
    {app : Application σ} (happ : app.OnlyReports) (hsilent : layer.IsSilent) (environ : Environ)
    (uses : List Use) (server : Server) (t : Telemetry)
    (hopening : Kept (layer.opening environ server t))
    (hobserved : (layer.readied environ t).1.isObserved = false) :
    let service := (layer.wrap app).serve environ uses server t
    let Open (course : Course) : Prop :=
      Kept course ∧ layer.Noted environ (layer.readied environ t).1
        (layer.opening environ server t).telemetry course
    if service.isOver uses then
      ∃ last cause, Open last ∧ service.failures = Option.toList cause ∧
        Lingers (layer.conclude (cause.map .error) (layer.told service.failure last))
          service.course
    else Open service.course ∧ service.failures = [] := by
  intro service Open
  have hupholds : layer.Upholds Open := hkept.and (upholds_noted hsilent hobserved)
  have hlast := hupholds.serve happ environ uses server t
    ⟨hopening, opening_noted environ server t⟩
  cases hover : service.isOver uses with
  | false =>
    rw [if_neg (by rw [hover]; simp)] at hlast
    exact hlast
  | true =>
    rw [if_pos hover] at hlast
    obtain ⟨last, cause, other, hopen, hother, hfailures, hlingers⟩ := hlast
    rw [hopen.2.conclude_lastStatus hsilent hobserved hother.2] at hlingers
    exact ⟨last, cause, hopen, hfailures, hlingers⟩

end Layer

end RequestTracing
