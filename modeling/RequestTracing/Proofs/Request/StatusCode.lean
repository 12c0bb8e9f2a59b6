import RequestTracing.Proofs.Application.Script
import RequestTracing.Proofs.Request.Accounts
import RequestTracing.Proofs.Span.Values
/-!
The status code of a response, as it is recorded on the span of a request and taken into the labels
of its duration. Both are read from the status line of each start, and both end up the same.
-/
namespace RequestTracing

namespace Http

theorem requestAttributes_statusCode (environ : Environ) (keepAllMethods : Bool) :
    (requestAttributes environ keepAllMethods).get? statusCodeAttribute = none := by
  unfold requestAttributes
  cases requestTarget? environ <;>
    simp [Dictionary.get?_insertSome, Dictionary.get?_insert, statusCodeAttribute,
      AttributeName.httpMethod, AttributeName.httpServerName, AttributeName.httpScheme,
      AttributeName.netHostPort, AttributeName.httpHost, AttributeName.httpTarget,
      AttributeName.httpUrl, AttributeName.netPeerIp, AttributeName.netPeerName,
      AttributeName.httpUserAgent, AttributeName.netPeerPort, AttributeName.httpFlavor]

end Http

theorem headerAttribute_ne_statusCode {start : String}
    (h : start = requestHeaderStart ∨ start = responseHeaderStart) (name : String) :
    headerAttribute start name ≠ Http.statusCodeAttribute := by
  intro heq
  have hstart : (headerAttribute start name).toList.take 6 = "http.r".toList := by
    unfold headerAttribute
    rw [String.toList_append, List.take_append_of_le_length]
    · rcases h with rfl | rfl <;> decide
    · rcases h with rfl | rfl <;> decide
  rw [heq] at hstart
  exact absurd hstart (by decide)

theorem captureHeaders_ne_statusCode {start : String}
    (h : start = requestHeaderStart ∨ start = responseHeaderStart) (allowed hidden : HeaderMatcher)
    (headers : HeaderSet) :
    ∀ entry ∈ (captureHeaders allowed hidden (headerAttribute start) headers).entries,
      entry.1 ≠ Http.statusCodeAttribute := by
  intro entry he
  rcases Dictionary.fst_of_mem_insertAll _ he with he | ⟨pair, hpair, heq⟩
  · simp [Dictionary.empty] at he
  · obtain ⟨header, _, rfl⟩ := List.mem_map.mp hpair
    rw [heq]
    exact headerAttribute_ne_statusCode h header.1

namespace Span

variable {span : Span} {t : Telemetry} (h : span.isRecording t = true)

include h

theorem applyStatus_sets (line : String) :
    Sets Http.statusCodeAttribute ((Http.statusCode? line).map .int) (span, t)
      (span.applyStatus line t) := by
  unfold applyStatus
  rw [if_pos h]
  cases Http.statusCode? line with
  | none => exact setStatus_sets h _
  | some code =>
    have hcode := setAttribute_sets h Http.statusCodeAttribute Http.statusCodeAttribute (.int code)
    rw [if_pos rfl] at hcode
    exact hcode.trans (setStatus_sets hcode.recording _)

theorem setHeaders_sets {headers : Attributes}
    (hheaders : ∀ entry ∈ headers.entries, entry.1 ≠ Http.statusCodeAttribute) :
    Sets Http.statusCodeAttribute none (span, t) (Layer.setHeaders headers span t) := by
  refine ((isClosed_reaches (Spares Http.statusCodeAttribute span.isObserved)).setHeaders
    (fun entry he => ?_) span t).sets h fun action hspares => hspares
  refine ⟨by simp, fun value heq => ?_, by simp⟩
  exact hheaders entry he (SpanAction.setAttribute.inj heq).1

end Span

namespace Layer

variable (layer : Layer) (environ : Environ)

/-- Whether the hooks, for a request and some starts of its response, leave the span keeping updates
and its status code as it is. -/
def HooksSpare (observed : Bool) (starts : List ResponseStart) : Prop :=
  (∀ action, layer.RequestHookUses environ action →
    Span.Spares Http.statusCodeAttribute observed action) ∧
  ∀ start ∈ starts, ∀ action, layer.ResponseHookUses environ start action →
    Span.Spares Http.statusCodeAttribute observed action

theorem annotateSpan_sets {start : ResponseStart} {span : Span} {t : Telemetry}
    (h : span.isRecording t = true)
    (hhook : ∀ action, layer.ResponseHookUses environ start action →
      Span.Spares Http.statusCodeAttribute span.isObserved action) :
    Span.Sets Http.statusCodeAttribute ((Http.statusCode? start.status).map .int) (span, t)
      (layer.annotateSpan environ start span t) := by
  have hstatus := Span.applyStatus_sets h start.status
  have hheaders := hstatus.trans (Span.setHeaders_sets hstatus.recording
    (captureHeaders_ne_statusCode (.inr rfl) layer.capture.response layer.capture.hidden
      (.ofPairs start.headers)))
  have hobserved := hheaders.observed
  have hreaches := layer.runResponseHook_of_isClosed (Span.isClosed_reaches _)
    (fun _ _ => .hook _ (.inr rfl) .refl) hhook
  exact hheaders.trans ((hreaches _ _).sets hheaders.recording
    fun action hspares => hobserved ▸ hspares)

variable (t : Telemetry)

/-- A request whose span, if it has kept all updates, has the status code that the labels have. -/
structure Agreeing (course : Course) : Prop where
  sameEnviron : course.request.environ = environ
  agrees : ∃ new, course.telemetry.events = t.events ++ new ∧
    (layer.HooksSpare environ (layer.started environ t).1.isObserved (Event.starts new) →
      (layer.started environ t).1.isRecording (layer.started environ t).2 = true →
      ∃ span, course.request.span = some span ∧ span.isRecording course.telemetry = true ∧
        span.isObserved = (layer.started environ t).1.isObserved ∧
        span.value? new Http.statusCodeAttribute =
          (Http.lastCode? (Event.starts new)).map .int)

variable {layer environ t}

/-- Events that neither set an attribute nor start a response leave the span and the labels in
agreement. -/
theorem Agreeing.quiet {course : Course} (h : layer.Agreeing environ t course) (last : Course)
    (hrequest : last.request = course.request)
    (hrecording : last.telemetry.recording = course.telemetry.recording)
    {more : List Event} (hmore : last.telemetry.events = course.telemetry.events ++ more)
    (hquiet : ∀ event ∈ more,
      event.start? = none ∧ ∀ number name, event.value? number name = none) :
    layer.Agreeing environ t last := by
  obtain ⟨new, hnew, hagrees⟩ := h.agrees
  have hstarts : Event.starts (new ++ more) = Event.starts new := by
    rw [Event.starts_append, Event.starts_eq_nil fun event he => (hquiet event he).1,
      List.append_nil]
  refine ⟨hrequest ▸ h.sameEnviron, new ++ more, ?_, fun hspare hstarted => ?_⟩
  · rw [hmore, hnew, List.append_assoc]
  rw [hstarts] at hspare ⊢
  obtain ⟨span, hspan, hkeeps, hobserved, hvalue⟩ := hagrees hspare hstarted
  refine ⟨span, hrequest ▸ hspan, ?_, hobserved, ?_⟩
  · cases span <;> simpa [Span.isRecording, hrecording] using hkeeps
  · rw [span.value?_append _ fun event he number => (hquiet event he).2 number _]
    exact hvalue

theorem Agreeing.enter {course : Course} (h : layer.Agreeing environ t course) :
    layer.Agreeing environ t (enter course) := by
  obtain ⟨more, hmore, henter⟩ := course.request.enter_events course.telemetry
  refine h.quiet (Layer.enter course) rfl (course.request.enter_recording _) hmore
    fun event he => ?_
  obtain ⟨number, rfl⟩ := henter event he
  exact ⟨rfl, fun _ _ => rfl⟩

/-- A start of the response sets the code on the span just as in the labels. -/
theorem Agreeing.respond {course : Course} (h : layer.Agreeing environ t course)
    (start : ResponseStart) : layer.Agreeing environ t (layer.move course (.respond start)) := by
  obtain ⟨new, hnew, hagrees⟩ := h.agrees
  cases hspan : course.request.span with
  | none =>
    have hcourse := layer.annotate_of_none hspan start course.telemetry
    refine ⟨by simp [Layer.move, hcourse, Request.label, h.sameEnviron],
      new ++ [.server course.server.request start], by simp [Layer.move, hcourse, hnew],
      fun hspare hstarted => ?_⟩
    rw [Event.starts_append] at hspare
    obtain ⟨span, hsome, _⟩ := hagrees
      ⟨hspare.1, fun other hother => hspare.2 other (List.mem_append_left _ hother)⟩ hstarted
    simp [hspan] at hsome
  | some span =>
    have hcourse := layer.annotate_of_some hspan start course.telemetry
    obtain ⟨more, hmore, huse⟩ :=
      (layer.annotateSpan_reaches course.request.environ start span course.telemetry).events
    have hstarts : Event.starts (new ++ (more ++ [.server course.server.request start])) =
        Event.starts new ++ [start] := by
      rw [Event.starts_append, Event.starts_append, Event.starts_eq_nil fun event he =>
        Event.start?_eq_none_of_isSpanUse (huse event he).1]
      rfl
    refine ⟨by simp [Layer.move, hcourse, Request.label, h.sameEnviron],
      new ++ (more ++ [.server course.server.request start]),
      by simp [Layer.move, hcourse, hmore, hnew], fun hspare hstarted => ?_⟩
    rw [hstarts] at hspare ⊢
    obtain ⟨other, hother, hkeeps, hobserved, hvalue⟩ := hagrees
      ⟨hspare.1, fun other hother => hspare.2 other (List.mem_append_left _ hother)⟩ hstarted
    obtain rfl : span = other := Option.some.inj (hspan.symm.trans hother)
    have hsets := layer.annotateSpan_sets environ hkeeps fun action hused =>
      hobserved ▸ hspare.2 start (by simp) action hused
    rw [← h.sameEnviron] at hsets
    obtain ⟨others, hothers, hvalues⟩ := hsets.value
    obtain rfl : others = more := List.append_cancel_left (hothers.symm.trans hmore)
    refine ⟨_, by simp [Layer.move, hcourse], ?_, hsets.observed.trans hobserved, ?_⟩
    · simpa [Layer.move, hcourse] using hsets.recording
    · rw [← List.append_assoc, Span.value?_append _ _ (by simp [Event.value?]), hvalues, hvalue,
        Http.lastCode?_append]
      cases Http.statusCode? start.status <;> rfl

variable (layer environ t)

theorem keeps_agreeing : layer.Keeps (layer.Agreeing environ t) where
  enter course h := h.enter
  leave course before h :=
    h.quiet { course with telemetry := before.leave course.telemetry } rfl (by simp)
      (by simp : _ = course.telemetry.events ++ []) (by simp)
  move course move hown h := by
    cases move with
    | report events =>
      refine h.quiet (layer.move course (.report events)) rfl
        (by simp [Layer.move, Telemetry.emitAll_eq]) (course.telemetry.emitAll_events events)
        fun event he => ?_
      have hreport := hown event he
      cases event <;> simp_all [Event.isReport, Event.start?, Event.value?]
    | respond start => exact h.respond start
  fail course failure h := by
    let record := layer.failureRecord course.request.environ failure
    exact h.quiet { course with telemetry := course.telemetry.emit (.log record) } rfl rfl
      (course.telemetry.emit_events (.log record)) (by simp [Event.start?, Event.value?])

theorem opening_agreeing (server : Server) :
    layer.Agreeing environ t (layer.opening environ server t) := by
  obtain ⟨new, hnew, _⟩ := layer.readied_events environ t
  refine ⟨rfl, new ++ [layer.meter.active 1 (layer.activeLabels environ)],
    by simp [opening, begin_eq, hnew], fun hspare hstarted => ?_⟩
  have hheaders : Span.Sets Http.statusCodeAttribute none (layer.started environ t)
      (setHeaders (layer.capture.requestAttributes environ) (layer.started environ t).1
        (layer.started environ t).2) :=
    Span.setHeaders_sets hstarted (captureHeaders_ne_statusCode (.inl rfl) _ _ _)
  have hobserved := hheaders.observed
  have hreaches := layer.runRequestHook_of_isClosed (Span.isClosed_reaches _)
    (fun _ _ => .hook _ (.inl rfl) .refl) hspare.1
  have hready : Span.Sets Http.statusCodeAttribute none (layer.started environ t)
      (layer.readied environ t) :=
    hheaders.trans ((hreaches _ _).sets hheaders.recording fun action hspares =>
      hobserved ▸ hspares)
  obtain ⟨first, hfirst, hnone⟩ := layer.tracer.start_value?
    (Http.spanName environ layer.capture.allMethods) environ t
    (Http.requestAttributes_statusCode environ layer.capture.allMethods)
  obtain ⟨more, hmore, hvalue⟩ := hready.value
  have hall : new = first ++ more := by
    have hevents : (layer.readied environ t).2.events = t.events ++ (first ++ more) := by
      rw [hmore, ← List.append_assoc, ← hfirst]
      rfl
    exact List.append_cancel_left (hnew.symm.trans hevents)
  refine ⟨(layer.readied environ t).1, by simp [opening, begin_eq], ?_, hready.observed, ?_⟩
  · simpa [opening, begin_eq] using hready.recording
  · rw [layer.starts_counted hnew, Span.value?_append _ _ (by simp), hall, hvalue]
    exact hnone

variable {t}

theorem durationLabels_statusCode (starts : List ResponseStart) :
    (layer.durationLabels environ starts).get? Http.statusCodeAttribute =
      (Http.lastCode? starts).map .int := by
  have hnone : (Http.durationLabels (Http.requestAttributes environ layer.capture.allMethods)).get?
      Http.statusCodeAttribute = none := by
    unfold Http.durationLabels
    rw [Attributes.get?_project, Http.requestAttributes_statusCode]
    simp
  unfold durationLabels
  rw [Dictionary.get?_insertSome, if_pos rfl, hnone]
  simp

variable (t)

/-- What a settled request shows of the codes of its response: the labels of its duration, and the
span with which it was settled. -/
structure Reckoning (events : List Event) (course : Course) (before after : List Event) : Prop where
  duration : events = before ++
    layer.meter.duration none (layer.durationLabels environ (Event.starts before)) :: after
  once : ∀ event ∈ before ++ after, event.isDuration = false
  label : (layer.durationLabels environ (Event.starts before)).get? Http.statusCodeAttribute =
    (Http.lastCode? (Event.starts before)).map .int
  /-- A span that has kept all updates ends with the code that the labels have. -/
  span : layer.HooksSpare environ (layer.started environ t).1.isObserved (Event.starts before) →
    (layer.started environ t).1.isRecording (layer.started environ t).2 = true →
    layer.SettledFrom (fun last => ∃ span new, last.request.span = some span ∧
      span.isRecording last.telemetry = true ∧ last.telemetry.events = t.events ++ new ∧
      span.value? new Http.statusCodeAttribute =
        (Http.lastCode? (Event.starts before)).map .int) course

theorem SettledFrom.reckoning {layer : Layer} {environ : Environ} {t : Telemetry} {course : Course}
    (h : layer.SettledFrom (fun course => (course.request.span.isSome = true ∧
      layer.Counted environ t course) ∧ layer.Agreeing environ t course) course) :
    ∃ events before after, course.telemetry.events = t.events ++ events ∧
      layer.Reckoning environ t events course before after := by
  obtain ⟨last, status, late, ⟨⟨hsome, hcounted⟩, hagreeing⟩, hnone, hevents, hexported, hlate⟩ := h
  obtain ⟨span, hspan⟩ := Option.isSome_iff_exists.mp hsome
  obtain ⟨new, before, after, hnew, hstarts, hsettled, honce⟩ :=
    hcounted.settled hspan hevents hlate
  obtain ⟨others, hothers, hagrees⟩ := hagreeing.agrees
  obtain rfl : others = new := List.append_cancel_left (hothers.symm.trans hnew)
  refine ⟨_, before, after, hsettled, rfl, honce,
    layer.durationLabels_statusCode environ _, fun hspare hstarted => ?_⟩
  rw [hstarts] at hspare ⊢
  obtain ⟨span, hspan, hrecording, _, hvalue⟩ := hagrees hspare hstarted
  exact ⟨last, status, late, ⟨span, others, hspan, hrecording, hnew, hvalue⟩, hnone, hevents,
    hexported, hlate⟩

/-- The one duration of a request has the labels of the request, with the code of the last start
before it whose status line has one. A span that keeps all updates ends with the same code. -/
theorem serve_reckoning {σ : Type} (layer : Layer) {app : Application σ} (happ : app.OnlyReports)
    (environ : Environ) (uses : List Use) (server : Server) (t : Telemetry) :
    let service := (layer.wrap app).serve environ uses server t
    ∃ events, service.telemetry.events = t.events ++ events ∧
      if service.isOver uses then
        ∃ before after, layer.Reckoning environ t events service.course before after
      else ∀ event ∈ events, event.isDuration = false := by
  intro service
  have hlast := ((layer.keeps_counted environ t).and (layer.keeps_agreeing environ t)).serve
    happ environ uses server t
    ⟨layer.opening_counted environ t server, layer.opening_agreeing environ t server⟩
  cases hover : service.isOver uses with
  | false =>
    rw [if_neg (by rw [hover]; simp)] at hlast
    obtain ⟨⟨_, hcounted⟩, _⟩ := hlast
    obtain ⟨new, hnew, hcount, _⟩ := hcounted.events
    refine ⟨new, hnew, ?_⟩
    rw [if_neg (by simp)]
    intro event he
    simpa using List.countP_eq_zero.mp hcount.durations event he
  | true =>
    rw [if_pos hover] at hlast
    obtain ⟨events, before, after, hevents, hreckoning⟩ := hlast.reckoning
    exact ⟨events, hevents, by simpa using ⟨before, after, hreckoning⟩⟩

theorem serve_reckoning_talkative :
    let uses : List Use := [.next, .next, .respond { status := "404 Gone" }]
    let service := (observing.wrap (Script.application "request" Script.talkative)).serve .empty
      uses { request := "request" } {}
    ∃ before after, observing.Reckoning .empty {} service.telemetry.events service.course before
        after ∧
      Http.lastCode? (Event.starts before) = some 503 ∧
      observing.SettledFrom (fun last => ∃ span new, last.request.span = some span ∧
        span.isRecording last.telemetry = true ∧ last.telemetry.events = new ∧
        span.value? new Http.statusCodeAttribute = some (.int 503)) service.course := by
  intro uses service
  have hover : service.isOver uses = true := by rfl
  obtain ⟨events, hevents, hreckoned⟩ := observing.serve_reckoning
    (Script.application_onlyReports "request" Script.talkative) .empty uses
    { request := "request" } {}
  rw [if_pos hover] at hreckoned
  obtain ⟨before, after, hreckoning⟩ := hreckoned
  obtain rfl : events = service.telemetry.events := hevents.symm
  have hbefore : before = service.telemetry.events.takeWhile fun event => !event.isDuration := by
    have hquiet : ∀ event ∈ before, (!event.isDuration) = true := fun event he => by
      simpa using hreckoning.once event (List.mem_append_left _ he)
    rw [hreckoning.duration, List.takeWhile_append_of_pos hquiet]
    simp
  have hcode : Http.lastCode? (Event.starts before) = some 503 := by
    rw [hbefore]
    rfl
  have hspare : observing.HooksSpare .empty true (Event.starts before) := by
    refine ⟨fun action hused => ?_, fun start _ action hused => ?_⟩
    · obtain ⟨value, rfl⟩ := observing_hooksUse ⟨.empty, .inl hused⟩
      exact ⟨by simp, by simp [Http.statusCodeAttribute], by simp⟩
    · obtain ⟨value, rfl⟩ := observing_hooksUse ⟨.empty, .inr ⟨start, hused⟩⟩
      exact ⟨by simp, by simp [Http.statusCodeAttribute], by simp⟩
  have hspan := hreckoning.span hspare rfl
  rw [hcode] at hspan
  exact ⟨before, after, hreckoning, hcode, hspan⟩

end Layer

end RequestTracing
