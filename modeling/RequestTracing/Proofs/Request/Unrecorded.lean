import RequestTracing.Proofs.Application.Script
import RequestTracing.Proofs.Request.Discreet
/-!
Requests whose spans keep no updates. Nothing of such a request or of its response is noted on the
span, and a body that fails offers it no outcome. An application that fails does.
-/
namespace RequestTracing

namespace Span

def report (span : Span) (use : Nat → Event) : List Event :=
  match span with
  | .observed number _ => [use number]
  | _ => []

theorem isRecording_congr (span : Span) {t other : Telemetry} (h : t.recording = other.recording) :
    span.isRecording t = span.isRecording other := by
  cases span with
  | observed number kind => exact h
  | logged span => rfl
  | distributed span => rfl

section Idle

variable {span : Span} {t : Telemetry} (h : span.isRecording t = false)

include h

theorem applyStatus_idle (line : String) : span.applyStatus line t = (span, t) := by
  simp [applyStatus, h]

theorem setHeaders_idle (headers : Attributes) : Layer.setHeaders headers span t = (span, t) := by
  simp [Layer.setHeaders, isRecordingServer, h]

/-- An outcome is passed on to a span also if it keeps none. -/
theorem setStatus_idle (status : SpanStatus) :
    span.setStatus status t = (span, t.emitAll (span.report (.setStatus · status))) := by
  cases span with
  | observed number kind => rfl
  | logged span => exact setStatus_of_not_isRecording rfl h status
  | distributed span => exact setStatus_of_not_isRecording rfl h status

theorem finish_idle : span.finish t = (span, t.emitAll (span.report .endSpan)) := by
  cases span with
  | observed number kind => rfl
  | logged span =>
    have hended : span.ended = true := by simpa [isRecording, LoggedSpan.isRecording] using h
    simp [finish, LoggedSpan.finish, hended, report, Telemetry.emitAll]
  | distributed span =>
    have hrecord : span.record = none := by
      simpa [isRecording, DistributedSpan.isRecording] using h
    simp [finish, DistributedSpan.finish, hrecord, report, Telemetry.emitAll]

end Idle

end Span

/-- The end of a request tells its span of an outcome, if there is one. -/
theorem Request.endSpan_idle {request : Request} {span : Span} {t : Telemetry}
    (hspan : request.span = some span) (h : span.isRecording t = false)
    (status : Option SpanStatus) :
    (request.endSpan status t).2 = t.emitAll
      ((status.toList.flatMap fun status => span.report (.setStatus · status)) ++
        span.report .endSpan) := by
  cases status with
  | none =>
    have hended : (request.endSpan none t).2 = (span.finish t).2 := by simp [endSpan, hspan]
    rw [hended, Span.finish_idle h]
    rfl
  | some status =>
    let told := t.emitAll (span.report (.setStatus · status))
    have hended : (request.endSpan (some status) t).2 = (span.finish told).2 := by
      simp [endSpan, hspan, Span.setStatus_idle h, told]
    have hidle : span.isRecording told = false :=
      (span.isRecording_congr (t.emitAll_recording _)).trans h
    rw [hended, Span.finish_idle hidle]
    simp [told, Telemetry.emitAll_emitAll]

namespace Layer

variable {layer : Layer}

/-- A request since some moment whose span keeps no updates, and on which nothing was noted. -/
structure Idle (idle : Span) (t : Telemetry) (course : Course) : Prop where
  span : course.request.span = some idle
  recording : idle.isRecording course.telemetry = false
  exported : course.telemetry.exported = t.exported
  events : ∃ new, course.telemetry.events = t.events ++ new ∧
    ∀ event ∈ new, event.isSpanUpdate = false

variable {span : Span} {t : Telemetry}

theorem Idle.extend {course : Course} (h : Idle span t course) (last : Course)
    (hspan : last.request.span = course.request.span)
    (hrecording : last.telemetry.recording = course.telemetry.recording)
    (hexported : last.telemetry.exported = course.telemetry.exported)
    {more : List Event} (hmore : last.telemetry.events = course.telemetry.events ++ more)
    (hquiet : ∀ event ∈ more, event.isSpanUpdate = false) : Idle span t last := by
  obtain ⟨new, hnew, hold⟩ := h.events
  refine ⟨hspan.trans h.span, (span.isRecording_congr hrecording).trans h.recording,
    hexported.trans h.exported, new ++ more, ?_, ?_⟩
  · rw [hmore, hnew, List.append_assoc]
  · exact fun event he => (List.mem_append.mp he).elim (hold event) (hquiet event)

theorem annotateSpan_idle (hsilent : layer.IsSilent) (h : span.isRecording t = false)
    (environ : Environ) (start : ResponseStart) :
    layer.annotateSpan environ start span t =
      (span, t.emitAll layer.responseMarks) := by
  simp only [annotateSpan, Span.applyStatus_idle h, Span.setHeaders_idle h,
    runResponseHook_eq hsilent]
  rfl

theorem readied_idle (hsilent : layer.IsSilent) {environ : Environ}
    (h : (layer.started environ t).1.isRecording (layer.started environ t).2 = false) :
    layer.readied environ t = ((layer.started environ t).1, (layer.started environ t).2.emitAll
      (if layer.requestHook.isSome then [.requestHook] else [])) := by
  simp only [readied, Span.setHeaders_idle h, runRequestHook_eq hsilent]

theorem upholds_idle (hsilent : layer.IsSilent) : layer.Upholds (Idle span t) where
  enter course h := by
    obtain ⟨more, hmore, henter⟩ := course.request.enter_events course.telemetry
    refine h.extend (Layer.enter course) rfl (course.request.enter_recording _)
      (course.request.enter_exported _) hmore fun event he => ?_
    obtain ⟨number, rfl⟩ := henter event he
    rfl
  leave course before h :=
    h.extend { course with telemetry := before.leave course.telemetry } rfl (by simp) (by simp)
      (by simp : _ = course.telemetry.events ++ []) (by simp)
  move course move hown h := by
    cases move with
    | report events =>
      refine h.extend (layer.move course (.report events)) rfl (by simp [Layer.move])
        (by simp [Layer.move, Telemetry.emitAll_eq]) (course.telemetry.emitAll_events events)
        fun event he => ?_
      exact Event.isSpanUpdate_eq_false
        (Event.isSpanUse_eq_false_of_isLate (by simp [Event.isLate, hown event he]))
    | respond start =>
      have hcourse := layer.annotate_of_some h.span start course.telemetry
      rw [annotateSpan_idle hsilent h.recording] at hcourse
      let more : List Event := layer.responseMarks ++ [.server course.server.request start]
      have hmore : (layer.move course (.respond start)).telemetry.events =
          course.telemetry.events ++ more := by
        simp [Layer.move, hcourse, more]
      refine h.extend (layer.move course (.respond start)) ?_ ?_ ?_ hmore ?_
      · simp [Layer.move, hcourse, h.span]
      · simp [Layer.move, hcourse, Telemetry.emit]
      · simp [Layer.move, hcourse, Telemetry.emit, Telemetry.emitAll_eq]
      · cases hhook : layer.responseHook <;> simp [more, responseMarks, hhook, Event.isSpanUpdate]

theorem opening_idle (hsilent : layer.IsSilent) {environ : Environ}
    (h : (layer.started environ t).1.isRecording (layer.started environ t).2 = false)
    (server : Server) : Idle (layer.started environ t).1 t (layer.opening environ server t) := by
  have hready := readied_idle hsilent h
  obtain ⟨started, hstarted, hquiet⟩ := layer.tracer.start_events
    (Http.spanName environ layer.capture.allMethods)
    (Http.requestAttributes environ layer.capture.allMethods) environ t
  have hbegun : (layer.started environ t).2.events = t.events ++ started := hstarted
  have hexported : (layer.started environ t).2.exported = t.exported :=
    layer.tracer.start_exported _ _ environ t
  let hook : List Event := if layer.requestHook.isSome then [.requestHook] else []
  refine ⟨?_, ?_, ?_,
    started ++ hook ++ [layer.meter.active 1 (layer.activeLabels environ)], ?_, ?_⟩
  · simp [opening, begin_eq, hready]
  · rw [← h]
    apply Span.isRecording_congr
    simp [opening, begin_eq, hready, Telemetry.emit]
  · simp [opening, begin_eq, hready, Telemetry.emit, Telemetry.emitAll_eq, hexported]
  · simp [opening, begin_eq, hready, hbegun, hook]
  · intro event he
    simp only [List.mem_append, List.mem_singleton] at he
    rcases he with (he | he) | rfl
    · exact Event.isSpanUpdate_eq_false (hquiet event he).1
    · cases hrequest : layer.requestHook <;> simp_all [hook, Event.isSpanUpdate]
    · exact Event.isSpanUpdate_eq_false (layer.meter.isSpanUse_active _ _)

/-- The end of an idle request exports nothing, and only an outcome is noted on the span. -/
theorem conclude_idle (layer : Layer) {course : Course} (h : Idle span t course)
    (status : Option SpanStatus) :
    (layer.conclude status course).telemetry.exported = course.telemetry.exported ∧
    (layer.conclude status course).telemetry.events = course.telemetry.events ++
      (status.toList.flatMap fun status => span.report (.setStatus · status)) ++
      (span.report .endSpan ++ [layer.meter.duration none course.request.durationLabels,
        layer.meter.active (-1) course.request.activeLabels]) := by
  have hrequest := (Request.endSpan_events h.span status course.telemetry).1
  have htelemetry := Request.endSpan_idle h.span h.recording status
  simp [conclude, settle, hrequest, htelemetry, Telemetry.emitAll_eq]

/-- Of a body that fails and of an application that fails, only the application gives its failure to
a span that keeps no updates. -/
theorem lastStatus_of_not_isRecording {failed cause : Option Failure} {course : Course}
    {others : List Failure} (h : course.request.isRecording course.telemetry = false)
    (hcause : failed.toList ++ others = cause.toList) :
    lastStatus failed cause course = failed.map .error := by
  cases failed with
  | none => cases cause <;> simp [lastStatus, h, Option.filter]
  | some failure =>
    cases cause with
    | none => simp at hcause
    | some first =>
      obtain ⟨rfl, _⟩ : failure = first ∧ others = [] := by simpa using hcause
      simp [lastStatus, Option.filter]

theorem filter_isSpanUpdate_eq_nil {events : List Event}
    (hquiet : ∀ event ∈ events, event.isSpanUpdate = false) :
    events.filter Event.isSpanUpdate = [] :=
  List.filter_eq_nil_iff.mpr fun event he => by simp [hquiet event he]

/-- All that was noted on the span of a request that was idle until its end. -/
theorem Idle.ended {last course : Course} (h : Idle span t last) (failed : Option Failure)
    (hlingers : Lingers (layer.conclude (failed.map .error) (layer.told failed last)) course) :
    course.telemetry.exported = t.exported ∧
    ∃ events, course.telemetry.events = t.events ++ events ∧
      events.filter Event.isSpanUpdate =
        failed.toList.flatMap fun failure => span.report (.setStatus · (.error failure)) := by
  obtain ⟨late, hevents, hlate⟩ := hlingers.events
  obtain ⟨new, hnew, hquiet⟩ := h.events
  let records := layer.failureEvents last.request.environ failed
  have hrecords : ∀ event ∈ records, event.isSpanUpdate = false := fun event he =>
    Event.isSpanUpdate_eq_false (quiet_failureEvents event he).1
  have htold : Idle span t (layer.told failed last) :=
    h.extend (layer.told failed last) rfl (by simp [told])
      (by simp [told, Telemetry.emitAll_eq]) (layer.told_events failed last) hrecords
  obtain ⟨hexported, hconclude⟩ := layer.conclude_idle htold (failed.map .error)
  let ends : List Event := span.report .endSpan ++
    [layer.meter.duration none last.request.durationLabels,
      layer.meter.active (-1) last.request.activeLabels]
  have hends : ∀ event ∈ ends, event.isSpanUpdate = false := by
    intro event he
    rcases List.mem_append.mp he with he | he
    · cases span <;> simp_all [Span.report, Event.isSpanUpdate]
    · refine Event.isSpanUpdate_eq_false ?_
      simp only [List.mem_cons, List.not_mem_nil, or_false] at he
      rcases he with rfl | rfl <;> simp
  have hlateQuiet : ∀ event ∈ late, event.isSpanUpdate = false := fun event he =>
    Event.isSpanUpdate_eq_false (Event.isSpanUse_eq_false_of_isLate (hlate event he))
  refine ⟨hlingers.exported.trans (hexported.trans htold.exported), new ++ records ++
    (failed.toList.flatMap fun failure => span.report (.setStatus · (.error failure))) ++ ends ++
      late, ?_, ?_⟩
  · rw [hevents, hconclude, told_events, hnew]
    cases failed <;> simp [told, records, ends]
  · simp only [List.filter_append, filter_isSpanUpdate_eq_nil hquiet,
      filter_isSpanUpdate_eq_nil hrecords, filter_isSpanUpdate_eq_nil hends,
      filter_isSpanUpdate_eq_nil hlateQuiet, List.nil_append, List.append_nil]
    cases failed <;> cases span <;> rfl

/-- A span that keeps no updates is only started, entered and ended, whatever the application does,
and nothing of it is exported. There is one exception: an application that fails gives its failure
to the span. -/
theorem serve_unrecorded {σ : Type} (layer : Layer) (hsilent : layer.IsSilent)
    {app : Application σ} (happ : app.OnlyReports) (environ : Environ) (uses : List Use)
    (server : Server) (t : Telemetry)
    (hidle : (layer.started environ t).1.isRecording (layer.started environ t).2 = false) :
    let service := (layer.wrap app).serve environ uses server t
    let span := (layer.started environ t).1
    (service.isOver uses = false → service.state.request.span = some span) ∧
    service.telemetry.exported = t.exported ∧
    ∃ events, service.telemetry.events = t.events ++ events ∧
      events.filter Event.isSpanUpdate =
        service.failure.toList.flatMap fun failure =>
          span.report (.setStatus · (.error failure)) := by
  intro service span
  have hlast := (upholds_idle hsilent).serve happ environ uses server t
    (opening_idle hsilent hidle server)
  cases hover : service.isOver uses with
  | false =>
    rw [if_neg (by rw [hover]; simp)] at hlast
    obtain ⟨hopen, hfailures⟩ := hlast
    obtain ⟨new, hnew, hquiet⟩ := hopen.events
    have hfailure : service.failure.toList = [] := (List.append_eq_nil_iff.mp hfailures).1
    refine ⟨fun _ => hopen.span, hopen.exported, new, hnew, ?_⟩
    rw [filter_isSpanUpdate_eq_nil hquiet, hfailure]
    rfl
  | true =>
    rw [if_pos hover] at hlast
    obtain ⟨last, cause, other, hopen, hother, hfailures, hlingers⟩ := hlast
    have hrecording : other.request.isRecording other.telemetry = false := by
      simp [Request.isRecording, hother.span, hother.recording]
    rw [lastStatus_of_not_isRecording hrecording hfailures] at hlingers
    exact ⟨fun hopen => by simp at hopen, hopen.ended service.failure hlingers⟩

/-- A layer that reports all its uses of spans, and whose hooks leave them alone. -/
def watching : Layer :=
  { tracer := .observer .server, meter := .observer, capture := {} }

theorem serve_unrecorded_talkative :
    let app := Script.application "request" Script.talkative
    let uses : List Use := [.next, .next, .close, .respond { status := "404 Gone" }]
    let service := (watching.wrap app).serve .empty uses { request := "request" }
      { recording := false }
    service.failure = none ∧ service.telemetry.events.filter Event.isSpanUpdate = [] := by
  intro app uses service
  have hfailure : service.failure = none := by rfl
  obtain ⟨_, _, events, hevents, hupdates⟩ :=
    serve_unrecorded watching (isSilent_of_none rfl rfl)
      (Script.application_onlyReports "request" Script.talkative) .empty uses
      { request := "request" } { recording := false } rfl
  have hall : service.telemetry.events = events := hevents
  refine ⟨hfailure, ?_⟩
  rw [hall, hupdates, show ((watching.wrap app).serve .empty uses { request := "request" }
    { recording := false }).failure = none from hfailure]
  rfl

/-- A span that keeps no updates is given the failure of an application. -/
theorem serve_marks_failure :
    let app := Script.application "request" [.fail "Boom"]
    let service := (watching.wrap app).serve .empty [] { request := "request" }
      { recording := false }
    let started := watching.started .empty { recording := false }
    watching.IsSilent ∧ app.OnlyReports ∧ started.1.isRecording started.2 = false ∧
    service.telemetry.events.filter Event.isSpanUpdate = [.setStatus 0 (.error "Boom")] :=
  ⟨isSilent_of_none rfl rfl, Script.application_onlyReports "request" [.fail "Boom"], rfl, rfl⟩

end Layer

end RequestTracing
