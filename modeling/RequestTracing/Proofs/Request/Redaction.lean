import RequestTracing.Proofs.Application.Script
import RequestTracing.Proofs.Header.Blank
import RequestTracing.Proofs.Http.Variables
import RequestTracing.Proofs.Request.Discreet
/-!
Values of headers that are not captured or are hidden never show. Two requests that differ in
nothing but such values leave the same spans, the same records in the log and the same metrics.
-/
namespace RequestTracing

namespace Propagator

theorem extract?_congr {environ other : Environ}
    (h : ∀ key ∈ HeaderCapture.fixedVariables, environ.get? key = other.get? key)
    (propagator : Propagator) : propagator.extract? environ = propagator.extract? other := by
  cases propagator with
  | none => rfl
  | traceContext =>
    have hparent := h (Variable.ofHeader TraceContext.parentHeader)
      (by simp [HeaderCapture.fixedVariables])
    have hstate := h (Variable.ofHeader TraceContext.stateHeader)
      (by simp [HeaderCapture.fixedVariables])
    simp only [extract?, Carrier.get?, hparent, hstate]

end Propagator

namespace Tracer

/-- A tracer whose spans do not report their uses makes use of nothing but the caller's span. -/
theorem start_congr {tracer : Tracer} (htracer : ∀ kind, tracer ≠ .observer kind)
    {environ other : Environ}
    (h : ∀ key ∈ HeaderCapture.fixedVariables, environ.get? key = other.get? key) (name : String)
    (attributes : Attributes) (t : Telemetry) :
    tracer.start name attributes environ t = tracer.start name attributes other t := by
  cases tracer with
  | observer kind => exact absurd rfl (htracer kind)
  | log => rfl
  | distributed exporting own =>
    have hparent : parent (own.getD t.propagator) environ t =
        parent (own.getD t.propagator) other t := by
      simp only [parent, Propagator.extract?_congr h]
    simp only [start, hparent]

theorem start_isObserved {tracer : Tracer} (htracer : ∀ kind, tracer ≠ .observer kind)
    (name : String) (attributes : Attributes) (environ : Environ) (t : Telemetry) :
    (tracer.start name attributes environ t).1.isObserved = false := by
  cases tracer with
  | observer kind => exact absurd rfl (htracer kind)
  | log => rfl
  | distributed exporting own =>
    cases exporting <;> simp [start, Span.isObserved]

end Tracer

namespace HeaderCapture

variable {capture : HeaderCapture}

theorem sees_fixedVariables : ∀ key ∈ fixedVariables, capture.sees key = true := by
  intro key hkey
  unfold sees
  split
  · simp [hkey]
  · rfl

theorem sees_readVariables : ∀ key ∈ Http.readVariables, capture.sees key = true := by
  have hread : ∀ key ∈ Http.readVariables,
      Variable.header? key = none ∨ key ∈ fixedVariables := by decide
  intro key hkey
  rcases hread key hkey with hplain | hfixed
  · simp [sees, hplain]
  · exact sees_fixedVariables key hfixed

end HeaderCapture

namespace Layer

variable {layer : Layer}

section Environ

variable {environ other : Environ}
  (h : layer.capture.blankEnviron environ = layer.capture.blankEnviron other)

include h

theorem spanName_of_blank : Http.spanName environ layer.capture.allMethods =
    Http.spanName other layer.capture.allMethods :=
  Http.spanName_congr (fun key hkey =>
    HeaderCapture.get?_of_blankEnviron h (HeaderCapture.sees_readVariables key hkey)) _

theorem requestAttributes_of_blank : Http.requestAttributes environ layer.capture.allMethods =
    Http.requestAttributes other layer.capture.allMethods :=
  Http.requestAttributes_congr (fun key hkey =>
    HeaderCapture.get?_of_blankEnviron h (HeaderCapture.sees_readVariables key hkey)) _

/-- A request is opened in the same way whatever the values that cannot show. -/
theorem readied_congr (htracer : ∀ kind, layer.tracer ≠ .observer kind)
    (hsilent : layer.IsSilent) (t : Telemetry) :
    layer.readied environ t = layer.readied other t := by
  have hstarted : layer.started environ t = layer.started other t := by
    unfold started
    rw [spanName_of_blank h, requestAttributes_of_blank h]
    exact Tracer.start_congr htracer (fun key hkey =>
      HeaderCapture.get?_of_blankEnviron h (HeaderCapture.sees_fixedVariables key hkey)) _ _ t
  simp only [readied, hstarted, HeaderCapture.requestAttributes_congr h,
    runRequestHook_eq hsilent]

end Environ

theorem readied_isObserved (htracer : ∀ kind, layer.tracer ≠ .observer kind)
    (hsilent : layer.IsSilent) (environ : Environ) (t : Telemetry) :
    (layer.readied environ t).1.isObserved = false := by
  have hstarted : (layer.started environ t).1.isObserved = false :=
    Tracer.start_isObserved htracer _ _ environ t
  obtain ⟨next, hnext, _, hset⟩ :=
    Span.isDiscreet_setHeaders (layer.capture.requestAttributes environ) _ hstarted
  simpa only [readied, runRequestHook_eq hsilent, hset] using hnext

section Starts

variable {starts others : List ResponseStart}
  (h : starts.map layer.capture.blankStart = others.map layer.capture.blankStart)

include h

/-- Starts that differ only in what cannot show are noted in the same way. -/
theorem spanAfter_congr (hsilent : layer.IsSilent) (first : Span) :
    layer.spanAfter first starts = layer.spanAfter first others := by
  induction starts generalizing first others with
  | nil =>
    obtain rfl : others = [] := by simpa using h.symm
    rfl
  | cons start starts ih =>
    obtain ⟨other, rest, rfl, hother, hrest⟩ := List.map_eq_cons_iff.mp h.symm
    have hstatus : other.status = start.status := by
      simpa [HeaderCapture.blankStart] using congrArg ResponseStart.status hother
    have hfirst : (layer.annotateSpan .empty start first {}).1 =
        (layer.annotateSpan .empty other first {}).1 := by
      simp only [annotateSpan, hstatus, HeaderCapture.responseAttributes_congr hother,
        runResponseHook_eq hsilent]
    have hlast := ih hrest.symm (layer.annotateSpan .empty start first {}).1
    simpa [spanAfter, hfirst] using hlast

theorem lastCode?_of_blank : Http.lastCode? starts = Http.lastCode? others := by
  have hstatus := congrArg (List.map ResponseStart.status) h
  have hsame (start : ResponseStart) : (layer.capture.blankStart start).status = start.status := rfl
  simp only [List.map_map, Function.comp_def, hsame] at hstatus
  have hcodes := congrArg (List.filterMap Http.statusCode?) hstatus
  simp only [List.filterMap_map, Function.comp_def] at hcodes
  exact congrArg List.getLast? hcodes

theorem durationLabels_congr {environ other : Environ}
    (henviron : layer.capture.blankEnviron environ = layer.capture.blankEnviron other) :
    layer.durationLabels environ starts = layer.durationLabels other others := by
  unfold durationLabels
  rw [requestAttributes_of_blank henviron, lastCode?_of_blank h]

end Starts

/-- Whether two requests show the same of themselves, leaving out what applications report and what
servers are told. -/
structure Alike (layer : Layer) (course other : Course) : Prop where
  span : course.request.span = other.request.span
  activeLabels : course.request.activeLabels = other.request.activeLabels
  durationLabels : course.request.durationLabels = other.request.durationLabels
  record : layer.failureRecord course.request.environ = layer.failureRecord other.request.environ
  exported : course.telemetry.exported = other.telemetry.exported
  events : course.telemetry.events.filter (!·.isLate) = other.telemetry.events.filter (!·.isLate)

namespace Alike

variable {course other : Course} (h : layer.Alike course other)

include h

theorem symm : layer.Alike other course :=
  ⟨h.span.symm, h.activeLabels.symm, h.durationLabels.symm, h.record.symm, h.exported.symm,
    h.events.symm⟩

theorem trans {third : Course} (hother : layer.Alike other third) : layer.Alike course third :=
  ⟨h.span.trans hother.span, h.activeLabels.trans hother.activeLabels,
    h.durationLabels.trans hother.durationLabels, h.record.trans hother.record,
    h.exported.trans hother.exported, h.events.trans hother.events⟩

theorem told (failed : Option Failure) :
    layer.Alike (layer.told failed course) (layer.told failed other) := by
  refine ⟨h.span, h.activeLabels, h.durationLabels, h.record, ?_, ?_⟩
  · simp [Layer.told, Telemetry.emitAll_eq, h.exported]
  · simp [Layer.told, h.events, h.record]

/-- Requests that are alike end alike, if their spans do not report their uses. -/
theorem conclude {span : Span} (hspan : course.request.span = some span)
    (hobserved : span.isObserved = false) (status : Option SpanStatus) :
    layer.Alike (layer.conclude status course) (layer.conclude status other) := by
  obtain ⟨ends, exports, hends⟩ := Request.endSpan_of_unobserved hobserved status
  have hother : other.request.span = some span := h.span.symm.trans hspan
  obtain ⟨hrequest, hevents, hexports⟩ := hends course.request hspan course.telemetry
  obtain ⟨hotherRequest, hotherEvents, hotherExports⟩ :=
    hends other.request hother other.telemetry
  refine ⟨?_, ?_, ?_, ?_, ?_, ?_⟩
  · rw [conclude_span, conclude_span]
  · simp [Layer.conclude, settle, hrequest, hotherRequest, h.activeLabels]
  · simp [Layer.conclude, settle, hrequest, hotherRequest, h.durationLabels]
  · simp [Layer.conclude, settle, hrequest, hotherRequest, h.record]
  · simp [Layer.conclude, settle, Telemetry.emitAll_eq, hexports, hotherExports, h.exported]
  · simp only [Layer.conclude, settle, Telemetry.emitAll_events, hevents, hotherEvents,
      List.filter_append, h.events, hrequest, hotherRequest, h.activeLabels, h.durationLabels]

end Alike

theorem Lingers.filter_isLate {ended course : Course} (h : Lingers ended course) :
    course.telemetry.events.filter (!·.isLate) = ended.telemetry.events.filter (!·.isLate) := by
  obtain ⟨late, hevents, hlate⟩ := h.events
  have hnone : late.filter (!·.isLate) = [] :=
    List.filter_eq_nil_iff.mpr fun event he => by simp [hlate event he]
  rw [hevents, List.filter_append, hnone, List.append_nil]

/-- A request as it would stand after some starts of its response if nothing else had happened. -/
def mirror (layer : Layer) (environ : Environ) (t : Telemetry) (starts : List ResponseStart) :
    Course :=
  let opening := layer.opening environ { request := "" } t
  { opening with
    request :=
      { opening.request with
        span := some (layer.spanAfter (layer.readied environ t).1 starts)
        durationLabels := layer.durationLabels environ starts }
    telemetry := opening.telemetry.emitAll (starts.flatMap fun _ => layer.responseMarks) }

theorem mirror_congr {environ other : Environ} {starts others : List ResponseStart}
    (htracer : ∀ kind, layer.tracer ≠ .observer kind) (hsilent : layer.IsSilent)
    (h : layer.capture.blankEnviron environ = layer.capture.blankEnviron other)
    (hstarts : starts.map layer.capture.blankStart = others.map layer.capture.blankStart)
    (t : Telemetry) :
    layer.Alike (layer.mirror environ t starts) (layer.mirror other t others) := by
  have hready := readied_congr h htracer hsilent t
  have hactive : layer.activeLabels environ = layer.activeLabels other := by
    unfold activeLabels
    rw [requestAttributes_of_blank h]
  have hmarks := congrArg (List.flatMap fun _ => layer.responseMarks) hstarts
  simp only [List.flatMap_map] at hmarks
  refine ⟨?_, ?_, durationLabels_congr hstarts h, ?_, ?_, ?_⟩
  · simp [mirror, hready, spanAfter_congr hstarts hsilent]
  · simp [mirror, opening, begin_eq, hactive]
  · funext failure
    simp [failureRecord, mirror, opening, begin_eq, spanName_of_blank h]
  · simp [mirror, opening, begin_eq, hready, Telemetry.emitAll_eq, Telemetry.emit]
  · simp [mirror, opening, begin_eq, hready, hactive, hmarks]

/-- A request that lasts stands as if nothing but the starts of its response had happened. -/
theorem Counted.alike_mirror {environ : Environ} {t : Telemetry} {server : Server}
    {course : Course} (h : layer.Counted environ t course)
    (hnoted : layer.Noted environ (layer.readied environ t).1
      (layer.opening environ server t).telemetry course) :
    ∃ new, course.telemetry.events = t.events ++ new ∧
      (∀ event ∈ new, event.isDuration = false) ∧
      layer.Alike course (layer.mirror environ t (Event.starts new)) := by
  obtain ⟨new, hnew, hcount, hlabels⟩ := h.events
  obtain ⟨more, hmore, hspan, hfiltered⟩ := hnoted.span
  have hstarts : Event.starts new = Event.starts more := starts_since_opening hnew hmore
  have hmarks : (layer.responseMarks.filter fun event => !event.isLate) = layer.responseMarks := by
    unfold responseMarks
    split <;> rfl
  refine ⟨new, hnew, fun event he => ?_, ?_, ?_, ?_, ?_, ?_, ?_⟩
  · simpa using List.countP_eq_zero.mp hcount.durations event he
  · rw [hspan, hstarts]
    rfl
  · rw [h.activeLabels]
    simp [mirror, opening, begin_eq]
  · exact hlabels
  · rw [hnoted.environ]
    rfl
  · rw [hnoted.exported]
    simp [mirror, opening, Telemetry.emitAll_eq]
  · rw [hmore, List.filter_append, hfiltered, hstarts]
    simp [mirror, opening, List.filter_flatMap, hmarks]

end Layer

namespace Service

variable {σ : Type}

/-- The starts of the response of a request that was taken up in some state, until the request was
settled. -/
def openStarts (service : Service σ) (t : Telemetry) : List ResponseStart :=
  Event.starts ((service.telemetry.events.drop t.events.length).takeWhile (!·.isDuration))

theorem openStarts_of_quiet {service : Service σ} {t : Telemetry} {new : List Event}
    (hnew : service.telemetry.events = t.events ++ new)
    (hquiet : ∀ event ∈ new, event.isDuration = false) :
    service.openStarts t = Event.starts new := by
  have hall : (new ++ []).takeWhile (!·.isDuration) = new ++ [].takeWhile (!·.isDuration) :=
    List.takeWhile_append_of_pos (by simpa using hquiet)
  rw [List.append_nil, List.takeWhile_nil, List.append_nil] at hall
  rw [openStarts, hnew, List.drop_left, hall]

theorem openStarts_of_settled {layer : Layer} {service : Service σ} {t : Telemetry}
    {new : List Event} {starts : List ResponseStart}
    (hnew : service.telemetry.events = t.events ++ new) (hsettled : layer.SettledAfter starts new) :
    service.openStarts t = starts := by
  rw [openStarts, hnew, List.drop_left, hsettled.starts_eq]

end Service

namespace Layer

variable {layer : Layer} {σ τ : Type}

/-- A request stands, or has ended, as if nothing but the starts of its response and its failures
had happened. -/
theorem serve_alike_mirror {app : Application σ} (happ : app.OnlyReports)
    (htracer : ∀ kind, layer.tracer ≠ .observer kind) (hsilent : layer.IsSilent)
    (environ : Environ) (uses : List Use) (server : Server) (t : Telemetry) :
    let service := (layer.wrap app).serve environ uses server t
    ∃ last span cause, last.request.span = some span ∧ span.isObserved = false ∧
      service.failures = Option.toList cause ∧
      layer.Alike last (layer.mirror environ t (service.openStarts t)) ∧
      if service.isOver uses then
        Lingers (layer.conclude (cause.map .error) (layer.told service.failure last))
          service.course
      else last = service.course := by
  intro service
  have hready := readied_isObserved htracer hsilent environ t
  have hunobserved (starts : List ResponseStart) :=
    (spanAfter_of_unobserved hsilent hready starts).1
  have hserved := serve_noted (layer.keeps_counted environ t).upholds happ hsilent environ uses
    server t (layer.opening_counted environ t server) hready
  cases hover : service.isOver uses with
  | false =>
    rw [if_neg (by rw [hover]; simp)] at hserved
    obtain ⟨⟨⟨_, hcounted⟩, hnoted⟩, hnone⟩ := hserved
    obtain ⟨new, hnew, hquiet, halike⟩ := hcounted.alike_mirror hnoted
    obtain ⟨_, _, hspan, _⟩ := hnoted.span
    rw [Service.openStarts_of_quiet hnew hquiet]
    exact ⟨service.course, _, none, hspan, hunobserved _, hnone, halike, by simp⟩
  | true =>
    rw [if_pos hover] at hserved
    obtain ⟨last, cause, ⟨⟨hsome, hcounted⟩, hnoted⟩, hcause, hlingers⟩ := hserved
    obtain ⟨new, hnew, _, halike⟩ := hcounted.alike_mirror hnoted
    obtain ⟨_, _, hspan, _⟩ := hnoted.span
    obtain ⟨_, htold⟩ :=
      (layer.keeps_counted environ t).told service.failure ⟨hsome, hcounted⟩
    have htoldSpan : (layer.told service.failure last).request.span = some _ := hspan
    obtain ⟨late, hevents, hlate⟩ := hlingers.events
    obtain ⟨more, before, after, hmore, hstarts, hsettled, honce⟩ :=
      htold.settled htoldSpan hevents hlate
    have hopen : service.openStarts t = Event.starts new := by
      rw [Service.openStarts_of_settled hsettled ⟨before, _, after, rfl, honce, rfl⟩, hstarts,
        starts_told hnew hmore]
    rw [hopen]
    exact ⟨last, _, cause, hspan, hunobserved _, hcause, halike, by simpa using hlingers⟩

/-- Two requests that differ only in values that cannot show, and in what a server sees of such
values, leave the same spans, records and metrics. -/
theorem serve_redacted {app : Application σ} {other : Application τ} (happ : app.OnlyReports)
    (hother : other.OnlyReports) (htracer : ∀ kind, layer.tracer ≠ .observer kind)
    (hsilent : layer.IsSilent) {environ environ' : Environ}
    (h : layer.capture.blankEnviron environ = layer.capture.blankEnviron environ')
    (uses uses' : List Use) (server server' : Server) (t : Telemetry) :
    let first := (layer.wrap app).serve environ uses server t
    let second := (layer.wrap other).serve environ' uses' server' t
    first.isOver uses = second.isOver uses' → first.failure = second.failure →
    first.failures = second.failures →
    (first.openStarts t).map layer.capture.blankStart =
      (second.openStarts t).map layer.capture.blankStart →
    Http.spanName environ layer.capture.allMethods =
      Http.spanName environ' layer.capture.allMethods ∧
    first.state.request.span = second.state.request.span ∧
    first.telemetry.exported = second.telemetry.exported ∧
    first.telemetry.events.filter (!·.isLate) = second.telemetry.events.filter (!·.isLate) := by
  intro first second hover hfailure hfailures hstarts
  obtain ⟨last, span, cause, hspan, hunobserved, hcause, hmirror, hlast⟩ :=
    serve_alike_mirror happ htracer hsilent environ uses server t
  obtain ⟨last', _, cause', _, _, hcause', hmirror', hlast'⟩ :=
    serve_alike_mirror hother htracer hsilent environ' uses' server' t
  -- Both requests are like their mirrors, and these are made of nothing but what shows.
  have halike : layer.Alike last last' :=
    hmirror.trans ((mirror_congr htracer hsilent h hstarts t).trans hmirror'.symm)
  refine ⟨spanName_of_blank h, ?_⟩
  cases hend : first.isOver uses with
  | false =>
    rw [if_neg (by rw [hend]; simp)] at hlast
    rw [if_neg (by rw [← hover, hend]; simp)] at hlast'
    rw [hlast, hlast'] at halike
    exact ⟨halike.span, halike.exported, halike.events⟩
  | true =>
    rw [if_pos hend] at hlast
    rw [if_pos (hover.symm.trans hend)] at hlast'
    have hsame : cause = cause' := by
      have hlists : cause.toList = cause'.toList := hcause.symm.trans (hfailures.trans hcause')
      simpa using congrArg List.head? hlists
    have hended := (halike.told first.failure).conclude hspan hunobserved (cause.map .error)
    have hlingers : Lingers (layer.conclude (cause.map .error) (layer.told first.failure last'))
        second.course := by
      rw [hsame, hfailure]
      exact hlast'
    refine ⟨hlast.span.trans hlingers.span.symm, ?_, ?_⟩
    · exact hlast.exported.trans (hended.exported.trans hlingers.exported.symm)
    · exact hlast.filter_isLate.trans (hended.events.trans hlingers.filter_isLate.symm)

/-- A layer that exports all spans and hides the values of some captured headers. -/
def redacting : Layer :=
  { tracer := .distributed true none
    meter := .observer
    capture := .ofConfig
      { serverRequest := ["authorization"]
        serverResponse := ["set-cookie"]
        sanitizeFields := ["authorization", "set-cookie"] } }

theorem serve_redacted_secret :
    let environ (secret : String) : Environ :=
      .ofList [("HTTP_AUTHORIZATION", secret), ("HTTP_X_TOKEN", secret)]
    let start (secret : String) : ResponseStart :=
      { status := "200 OK", headers := [("Set-Cookie", secret)] }
    let service (secret : String) :=
      (redacting.wrap (Script.application "request" [.start { start := start secret }])).serve
        (environ secret) [.next] { request := "request" } {}
    (service "one").telemetry.exported = (service "two").telemetry.exported ∧
    (service "one").telemetry.events.filter (!·.isLate) =
      (service "two").telemetry.events.filter (!·.isLate) ∧
    (service "one").telemetry.events ≠ (service "two").telemetry.events := by
  intro environ start service
  have hsilent : redacting.IsSilent := isSilent_of_none rfl rfl
  have htracer (kind : SpanKind) : redacting.tracer ≠ .observer kind := nofun
  have hblank : redacting.capture.blankEnviron (environ "one") =
      redacting.capture.blankEnviron (environ "two") := by decide +kernel
  have hstarts : ((service "one").openStarts {}).map redacting.capture.blankStart =
      ((service "two").openStarts {}).map redacting.capture.blankStart := by decide +kernel
  obtain ⟨_, _, hexported, hevents⟩ := serve_redacted
    (Script.application_onlyReports "request" [.start { start := start "one" }])
    (Script.application_onlyReports "request" [.start { start := start "two" }]) htracer hsilent
    hblank [.next] [.next] { request := "request" } { request := "request" } {}
    (by decide +kernel) (by decide +kernel) (by decide +kernel) hstarts
  exact ⟨hexported, hevents, by decide +kernel⟩

end Layer

end RequestTracing
