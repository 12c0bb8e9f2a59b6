import RequestTracing.Proofs.Application.Script
import RequestTracing.Proofs.Request.Discreet
import RequestTracing.Proofs.Request.Settlement
import RequestTracing.Proofs.Span.Logged
/-!
The record in the log of a request that has ended. It is written once, when the request is settled.
It tells of the failure of the request, or else of what the last start of the response stands for,
and of all attributes with the values that they had last.
-/
namespace RequestTracing

namespace Layer

variable (layer : Layer) (environ : Environ)

/-- The attributes of a request when its span is started and the headers were captured. -/
def firstAttributes : Attributes :=
  (Http.requestAttributes environ layer.capture.allMethods).insertAll
    (layer.capture.requestAttributes environ).entries

def respondedAttributes (attributes : Attributes) (start : ResponseStart) : Attributes :=
  (attributes.insertSome Http.statusCodeAttribute
    ((Http.statusCode? start.status).map .int)).insertAll
    (layer.capture.responseAttributes start.headers).entries

/-- The description of the failure that a request ends with, if it ends with one: its own failure,
or else that for which the last start of its response stands. -/
def fault? (starts : List ResponseStart) (failures : List Failure) : Option String :=
  failures.head? <|> starts.getLast?.bind fun last => Http.lineFault? last.status

/-- The record of the end of a request after some starts of its response and with some failures. -/
def endRecord (starts : List ResponseStart) (failures : List Failure) : LogRecord :=
  let span : LogField :=
    { name := "span", value := Http.spanName environ layer.capture.allMethods }
  let attributes : LogField :=
    { name := "attributes"
      value :=
        (starts.foldl layer.respondedAttributes (layer.firstAttributes environ)).display }
  match fault? starts failures with
  | some description =>
    { level := .warn
      target := "environ_trace::span"
      message := "span ended with error"
      fields := [span, { name := "error", value := description }, attributes] }
  | none =>
    { level := .info
      target := "environ_trace::span"
      message := "span ended"
      fields := [span, attributes] }

theorem isSpanEnd_endRecord (starts : List ResponseStart) (failures : List Failure) :
    (layer.endRecord environ starts failures).isSpanEnd = true := by
  unfold endRecord
  cases fault? starts failures <;> rfl

/-- The span of a request after some starts of its response, as it is written to the log. -/
def loggedSpan (starts : List ResponseStart) : LoggedSpan :=
  { name := Http.spanName environ layer.capture.allMethods
    attributes := starts.foldl layer.respondedAttributes (layer.firstAttributes environ)
    status := (starts.getLast?.map fun last => Http.lineOutcome last.status).getD .unset }

/-- A span that is offered the failure of its request last is written with that failure. -/
theorem endRecord_eq (starts : List ResponseStart) (cause : Option Failure) :
    LoggedSpan.endRecord
        ((cause.map .error).elim (layer.loggedSpan environ starts)
          (layer.loggedSpan environ starts).setStatus) =
      layer.endRecord environ starts cause.toList := by
  cases cause with
  | some failure =>
    simp [LoggedSpan.endRecord, LoggedSpan.setStatus, loggedSpan, endRecord, fault?,
      LoggedSpan.target]
  | none =>
    cases hlast : starts.getLast? with
    | none => simp [LoggedSpan.endRecord, loggedSpan, endRecord, fault?, hlast, LoggedSpan.target]
    | some last =>
      cases hfault : Http.lineFault? last.status <;>
        simp [LoggedSpan.endRecord, loggedSpan, endRecord, fault?, hlast, Http.lineOutcome_eq,
          hfault, LoggedSpan.target]

variable {layer environ}

section Log

variable (htracer : layer.tracer = .log) (hsilent : layer.IsSilent)

include hsilent

theorem annotateSpan_logged {span : LoggedSpan} (h : span.ended = false) (environ : Environ)
    (start : ResponseStart) (t : Telemetry) :
    (layer.annotateSpan environ start (.logged span) t).1 =
      .logged ((span.noteStatus start.status).noteAll
        (layer.capture.responseAttributes start.headers)) := by
  have hnoted : (span.noteStatus start.status).ended = false := h
  simp only [annotateSpan, Span.applyStatus_logged h, Span.setHeaders_logged hnoted,
    runResponseHook_eq hsilent]

/-- A span keeps the attributes of all starts of the response, and the outcome of the last. -/
theorem spanAfter_logged {span : LoggedSpan} (h : span.ended = false)
    (starts : List ResponseStart) :
    layer.spanAfter (.logged span) starts = .logged { span with
      attributes := starts.foldl layer.respondedAttributes span.attributes
      status := (starts.getLast?.map fun last => Http.lineOutcome last.status).getD
        span.status } := by
  induction starts generalizing span with
  | nil => rfl
  | cons start starts ih =>
    let next : LoggedSpan := (span.noteStatus start.status).noteAll
      (layer.capture.responseAttributes start.headers)
    have hnext : layer.spanAfter (.logged span) (start :: starts) =
        layer.spanAfter (.logged next) starts := by
      simp [spanAfter, annotateSpan_logged hsilent h, next]
    have hended : next.ended = false := h
    rw [hnext, ih hended, List.getLast?_cons]
    cases starts.getLast? <;> rfl

include htracer

theorem readied_logged (environ : Environ) (t : Telemetry) :
    (layer.readied environ t).1 = .logged (layer.loggedSpan environ []) := by
  have hstarted : (layer.started environ t).1 = .logged
      { name := Http.spanName environ layer.capture.allMethods
        attributes := Http.requestAttributes environ layer.capture.allMethods } := by
    simp [started, htracer, Tracer.start, LoggedSpan.start]
  simp only [readied, hstarted, runRequestHook_eq hsilent]
  rw [Span.setHeaders_logged rfl]
  simp [loggedSpan, firstAttributes, LoggedSpan.noteAll]

end Log

/-- The end of a request is written to the log, and its metrics follow at once. -/
theorem conclude_logged {course : Course} {starts : List ResponseStart}
    (h : course.request.span = some (.logged (layer.loggedSpan environ starts)))
    (cause : Option Failure) :
    (layer.conclude (cause.map .error) course).telemetry.events = course.telemetry.events ++
      [.log (layer.endRecord environ starts cause.toList),
        layer.meter.duration none course.request.durationLabels,
        layer.meter.active (-1) course.request.activeLabels] := by
  have hopen : (layer.loggedSpan environ starts).ended = false := rfl
  rw [← endRecord_eq]
  cases cause <;>
    simp [conclude, settle, Request.endSpan, h, Span.setStatus, Span.finish, Span.release,
      LoggedSpan.finish, LoggedSpan.setStatus, hopen]

/-- Whether some events tell of a request that has ended with some failures: its end is written to
the log once, when its metrics are settled, with all that was started of its response until then. -/
def EndedInLog (layer : Layer) (environ : Environ) (failures : List Failure)
    (events : List Event) : Prop :=
  ∃ before late, events = before ++
      [.log (layer.endRecord environ (Event.starts before) failures),
        layer.meter.duration none (layer.durationLabels environ (Event.starts before)),
        layer.meter.active (-1) (layer.activeLabels environ)] ++ late ∧
    events.filter Event.isSpanEnd =
      [.log (layer.endRecord environ (Event.starts before) failures)] ∧
    events.countP Event.isDuration = 1

/-- What neither ends a span nor measures a duration may stand before and after the end. -/
theorem EndedInLog.of_quiet {failures : List Failure} {before late : List Event}
    (hbefore : ∀ event ∈ before, event.isSpanEnd = false)
    (hdurations : before.countP Event.isDuration = 0)
    (hlate : ∀ event ∈ late, event.isLate = true) :
    layer.EndedInLog environ failures (before ++
      [.log (layer.endRecord environ (Event.starts before) failures),
        layer.meter.duration none (layer.durationLabels environ (Event.starts before)),
        layer.meter.active (-1) (layer.activeLabels environ)] ++ late) := by
  have hended : (Event.log (layer.endRecord environ (Event.starts before) failures)).isSpanEnd =
      true := layer.isSpanEnd_endRecord environ _ failures
  have hrecord (record : LogRecord) : (Event.log record).isDuration = false := rfl
  have hquiet : before.filter Event.isSpanEnd = [] :=
    List.filter_eq_nil_iff.mpr fun event he => by simp [hbefore event he]
  have hquietLate : late.filter Event.isSpanEnd = [] :=
    List.filter_eq_nil_iff.mpr fun event he => by
      simp [Event.isSpanEnd_eq_false (Event.isSpanUse_eq_false_of_isLate (hlate event he))]
  refine ⟨before, late, rfl, ?_, ?_⟩
  · simp [hquiet, hquietLate, hended, Event.isSpanEnd_eq_false]
  · simp only [List.countP_append, List.countP_cons, List.countP_nil, hdurations,
      Event.countP_isDuration_of_isLate hlate]
    simp [hrecord]

/-- A request that ends while its span has noted all starts of the response, and had not ended
before, writes its end to the log. -/
theorem Noted.endedInLog (htracer : layer.tracer = .log) (hsilent : layer.IsSilent)
    {server : Server} {t : Telemetry} {last course : Course}
    (hnoted : layer.Noted environ (layer.readied environ t).1
      (layer.opening environ server t).telemetry last)
    (failed cause : Option Failure)
    (hcounted : layer.Counted environ t (layer.told failed last))
    (hlasting : layer.Lasting environ t (layer.told failed last))
    (hlingers : Lingers (layer.conclude (cause.map .error) (layer.told failed last)) course) :
    ∃ events, course.telemetry.events = t.events ++ events ∧
      layer.EndedInLog environ cause.toList events := by
  obtain ⟨new, hnew, hcount, hlabels⟩ := hcounted.events
  obtain ⟨late, hevents, hlate⟩ := hlingers.events
  have hspan : (layer.told failed last).request.span =
      some (.logged (layer.loggedSpan environ (Event.starts new))) := by
    rw [hnoted.told_span failed hnew, readied_logged htracer hsilent,
      spanAfter_logged hsilent (by simp [loggedSpan])]
    simp [loggedSpan]
  refine ⟨_, ?_, EndedInLog.of_quiet (hlasting.quiet hnew) hcount.durations hlate⟩
  rw [hevents, conclude_logged hspan cause, hnew, hlabels, hcounted.activeLabels]
  simp

/-- A request writes one record of its end to the log, at its settlement: a warning if the request
failed, or else if the last start of its response stands for a failure. The record has the
attributes of the request and those of all starts of its response, where later ones replace earlier
ones. -/
theorem serve_logs_end {σ : Type} (layer : Layer) (htracer : layer.tracer = .log)
    (hsilent : layer.IsSilent) {app : Application σ} (happ : app.OnlyReports) (environ : Environ)
    (uses : List Use) (server : Server) (t : Telemetry) :
    let service := (layer.wrap app).serve environ uses server t
    ∃ events, service.telemetry.events = t.events ++ events ∧
      if service.isOver uses then layer.EndedInLog environ service.failures events
      else ∀ event ∈ events, event.isSpanEnd = false := by
  intro service
  have hcounted := layer.keeps_counted environ t
  have hlasting := layer.keeps_lasting environ t (hsilent .finish)
  have hobserved : (layer.readied environ t).1.isObserved = false := by
    rw [readied_logged htracer hsilent]
    rfl
  have hopening := layer.opening_lasting environ t (hsilent .finish) server
  have hlast := serve_noted (hcounted.and hlasting).upholds happ hsilent environ uses server t
    ⟨layer.opening_counted environ t server, hopening⟩ hobserved
  cases hover : service.isOver uses with
  | false =>
    rw [if_neg (by rw [hover]; simp)] at hlast
    obtain ⟨⟨⟨_, hopen⟩, _⟩, _⟩ := hlast
    obtain ⟨new, hnew, hquiet⟩ := hopen.events
    exact ⟨new, hnew, by simpa using hquiet⟩
  | true =>
    rw [if_pos hover] at hlast
    obtain ⟨last, cause, ⟨⟨hcount, hopen⟩, hnoted⟩, hfailures, hlingers⟩ := hlast
    obtain ⟨events, hevents, hended⟩ := hnoted.endedInLog htracer hsilent service.failure cause
      (hcounted.told service.failure hcount).2 (hlasting.told service.failure hopen) hlingers
    exact ⟨events, hevents, by rwa [if_pos rfl, hfailures]⟩

theorem serve_logs_end_talkative :
    let layer : Layer := { tracer := .log, meter := .observer, capture := {} }
    let uses : List Use := [.next, .next, .close, .drop, .respond { status := "404 Gone" }]
    let service := (layer.wrap (Script.application "request" Script.talkative)).serve .empty uses
      { request := "request" } {}
    service.isOver uses = true ∧
      layer.EndedInLog .empty service.failures service.telemetry.events := by
  intro layer uses service
  have hover : service.isOver uses = true := by rfl
  obtain ⟨events, hevents, hended⟩ := serve_logs_end layer rfl (isSilent_of_none rfl rfl)
    (Script.application_onlyReports "request" Script.talkative) .empty uses
    { request := "request" } {}
  rw [if_pos hover] at hended
  have hall : ({} : Telemetry).events ++ events = events := rfl
  rw [hall] at hevents
  refine ⟨hover, ?_⟩
  rw [hevents]
  exact hended

end Layer

end RequestTracing
