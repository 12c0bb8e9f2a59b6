import RequestTracing.Proofs.Request.Discreet
import RequestTracing.Proofs.Request.StatusCode
import RequestTracing.Proofs.Span.Record
/-!
The span that a sampled request exports. Every start of the response adds its attributes and offers
its outcome, and so does a failure. Attributes are never replaced, and of the outcomes the greatest
is kept.
-/
namespace RequestTracing

namespace Layer

variable (layer : Layer)

def kindHeaders (kind : SpanKind) (headers : Attributes) : List (String × AttributeValue) :=
  if kind = .server then headers.entries else []

/-- The attributes that a start of a response adds to a span. -/
def startAttributes (kind : SpanKind) (start : ResponseStart) : List (String × AttributeValue) :=
  Http.codeAttribute start.status ++
    kindHeaders kind (layer.capture.responseAttributes start.headers)

def outcomes (starts : List ResponseStart) (failures : List Failure) : List SpanStatus :=
  starts.map (fun start => Http.lineOutcome start.status) ++ failures.map .error

/-- What is kept of a span of some kind after some starts of a response and with some failures. -/
def recordAfter (kind : SpanKind) (first : SpanRecord) (starts : List ResponseStart)
    (failures : List Failure) : SpanRecord :=
  { first with
    attributes := first.attributes ++ starts.flatMap (layer.startAttributes kind)
    status := (outcomes starts failures).foldl .raised first.status }

@[simp] theorem recordAfter_nil (kind : SpanKind) (first : SpanRecord) :
    layer.recordAfter kind first [] [] = first := by
  simp [recordAfter, outcomes]

theorem recordAfter_cons (kind : SpanKind) (first : SpanRecord) (start : ResponseStart)
    (starts : List ResponseStart) (failures : List Failure) :
    layer.recordAfter kind first (start :: starts) failures =
      layer.recordAfter kind
        (first.note (layer.startAttributes kind start) (Http.lineOutcome start.status)) starts
        failures := by
  simp [recordAfter, outcomes, SpanRecord.note]

theorem recordAfter_failure (kind : SpanKind) (first : SpanRecord) (starts : List ResponseStart)
    (failure : Failure) :
    layer.recordAfter kind first starts [failure] =
      (layer.recordAfter kind first starts []).note [] (.error failure) := by
  simp [recordAfter, outcomes, SpanRecord.note]

theorem valuesOf_kindHeaders {start : String}
    (h : start = requestHeaderStart ∨ start = responseHeaderStart) (kind : SpanKind)
    (allowed hidden : HeaderMatcher) (headers : HeaderSet) :
    valuesOf Http.statusCodeAttribute
      (kindHeaders kind (captureHeaders allowed hidden (headerAttribute start) headers)) = [] := by
  unfold kindHeaders
  split
  · exact valuesOf_eq_nil (captureHeaders_ne_statusCode h allowed hidden headers)
  · rfl

theorem setHeaders_keeping (headers : Attributes) (span : DistributedSpan) (record : SpanRecord)
    (t : Telemetry) :
    setHeaders headers (.distributed (span.keeping record)) t =
      (.distributed (span.keeping (record.note (kindHeaders span.kind headers) .unset)), t) := by
  have hserver : (Span.distributed (span.keeping record)).isRecordingServer t =
      decide (span.kind = .server) := rfl
  unfold setHeaders kindHeaders
  rw [hserver, Span.setAttributes_keeping]
  by_cases hkind : span.kind = .server
  · simp [hkind]
  · simp [hkind, SpanRecord.note_nil]

variable {layer} (hsilent : layer.IsSilent)

include hsilent

theorem annotateSpan_keeping (environ : Environ) (start : ResponseStart) (span : DistributedSpan)
    (record : SpanRecord) (t : Telemetry) :
    layer.annotateSpan environ start (.distributed (span.keeping record)) t =
      (.distributed (span.keeping (record.note (layer.startAttributes span.kind start)
          (Http.lineOutcome start.status))),
        t.emitAll (if layer.responseHook.isSome then [.responseHook] else [])) := by
  simp only [annotateSpan, Span.applyStatus_keeping, setHeaders_keeping,
    SpanRecord.note_note_unset, runResponseHook_eq hsilent]
  rfl

theorem spanAfter_keeping (span : DistributedSpan) (first : SpanRecord)
    (starts : List ResponseStart) :
    layer.spanAfter (.distributed (span.keeping first)) starts =
      .distributed (span.keeping (layer.recordAfter span.kind first starts [])) := by
  induction starts generalizing first with
  | nil => simp [spanAfter]
  | cons start starts ih =>
    rw [recordAfter_cons, ← ih]
    simp [spanAfter, annotateSpan_keeping hsilent]

omit hsilent

/-- What is kept of a span of some kind once the headers of its request were captured. -/
def readiedRecord (layer : Layer) (environ : Environ) (kind : SpanKind) (first : SpanRecord) :
    SpanRecord :=
  first.note (kindHeaders kind (layer.capture.requestAttributes environ)) .unset

/-- What is kept of the span of a request at its end. -/
def lastRecord (layer : Layer) (environ : Environ) (kind : SpanKind) (first : SpanRecord)
    (starts : List ResponseStart) (failures : List Failure) : SpanRecord :=
  layer.recordAfter kind (layer.readiedRecord environ kind first) starts failures

/-- The span that a sampled request exports after some starts of its response and with some
failures. -/
def exportedSpan (layer : Layer) (environ : Environ) (span : DistributedSpan) (first : SpanRecord)
    (starts : List ResponseStart) (failures : List Failure) : ExportedSpan :=
  span.exported (layer.lastRecord environ span.kind first starts failures)

/-- Whether a request starts a span that keeps the attributes of the request. -/
structure StartsKeeping (layer : Layer) (environ : Environ) (t : Telemetry)
    (span : DistributedSpan) (first : SpanRecord) : Prop where
  span : (layer.started environ t).1 = .distributed (span.keeping first)
  telemetry : (layer.started environ t).2.exported = t.exported
  status : first.status = .unset
  attributes : first.attributes =
    (Http.requestAttributes environ layer.capture.allMethods).entries

/-- A request starts a span that keeps something if its trace is sampled. -/
theorem startsKeeping_of_isSampled {own : Option Propagator}
    (htracer : layer.tracer = .distributed true own) {environ : Environ} {t : Telemetry}
    (hsampled : (Tracer.parent (own.getD t.propagator) environ t).1.all (·.isSampled) = true) :
    ∃ span first, layer.StartsKeeping environ t span first := by
  let parent := Tracer.parent (own.getD t.propagator) environ t
  let attributes := Http.requestAttributes environ layer.capture.allMethods
  let begun := DistributedSpan.start (Http.spanName environ layer.capture.allMethods) parent.2
    attributes parent.1 t
  have hstarted : layer.started environ t = (.distributed begun.1, begun.2) := by
    unfold started
    rw [htracer]
    rfl
  obtain ⟨span, first, hbegun, hexported, hstatus, hattributes⟩ :=
    DistributedSpan.start_keeping (Http.spanName environ layer.capture.allMethods) parent.2
      attributes hsampled t
  refine ⟨span, first, ?_, ?_, hstatus, hattributes⟩
  · rw [hstarted, ← hbegun]
  · rw [hstarted]
    exact hexported

theorem StartsKeeping.readied_eq {environ : Environ} {t : Telemetry} {span : DistributedSpan}
    {first : SpanRecord} (h : layer.StartsKeeping environ t span first)
    (hsilent : layer.IsSilent) :
    (layer.readied environ t).1 =
        .distributed (span.keeping (layer.readiedRecord environ span.kind first)) ∧
      (layer.readied environ t).2.exported = t.exported := by
  simp only [readied, h.span, setHeaders_keeping, runRequestHook_eq hsilent, Telemetry.emitAll_eq]
  exact ⟨rfl, h.telemetry⟩

theorem conclude_keeping {course : Course} {span : DistributedSpan} {first : SpanRecord}
    {starts : List ResponseStart}
    (h : course.request.span =
      some (.distributed (span.keeping (layer.recordAfter span.kind first starts []))))
    (cause : Option Failure) :
    (layer.conclude (cause.map .error) course).telemetry.exported = course.telemetry.exported ++
      [span.exported (layer.recordAfter span.kind first starts cause.toList)] := by
  have hfinish (record : SpanRecord) :
      let ended := (Span.distributed (span.keeping record)).finish course.telemetry
      (ended.1.release ended.2).exported =
        course.telemetry.exported ++ [span.exported record] := by
    intro ended
    rw [Span.release_finish]
    rfl
  cases cause with
  | none =>
    simp only [Layer.conclude, settle, Request.endSpan, h, Option.map_none, Telemetry.emitAll_eq]
    exact hfinish _
  | some failure =>
    simp only [Layer.conclude, settle, Request.endSpan, h, Option.map_some, Telemetry.emitAll_eq,
      Span.setStatus, DistributedSpan.setStatus_keeping, Option.toList_some, recordAfter_failure]
    exact hfinish _

/-- A sampled request that is over has exported its span, with all starts of its response and all
its failures up to its settlement. -/
theorem serve_exported {σ : Type} {own : Option Propagator}
    (htracer : layer.tracer = .distributed true own) (hsilent : layer.IsSilent)
    {app : Application σ} (happ : app.OnlyReports) (environ : Environ) (uses : List Use)
    (server : Server) (t : Telemetry)
    (hsampled : (Tracer.parent (own.getD t.propagator) environ t).1.all (·.isSampled) = true) :
    let service := (layer.wrap app).serve environ uses server t
    ∃ span first, layer.StartsKeeping environ t span first ∧
      if service.isOver uses then
        ∃ cause events starts, service.failures = Option.toList cause ∧
          service.telemetry.events = t.events ++ events ∧ layer.SettledAfter starts events ∧
          service.telemetry.exported =
            t.exported ++ [layer.exportedSpan environ span first starts service.failures]
      else service.failures = [] := by
  intro service
  obtain ⟨span, first, hstarts⟩ := startsKeeping_of_isSampled htracer hsampled
  refine ⟨span, first, hstarts, ?_⟩
  obtain ⟨hready, hexportedReady⟩ := hstarts.readied_eq hsilent
  have hlast := serve_noted (layer.keeps_counted environ t).upholds happ hsilent environ uses server
    t (layer.opening_counted environ t server) (by rw [hready]; rfl)
  cases hover : service.isOver uses with
  | false =>
    rw [if_neg (by rw [hover]; simp)] at hlast
    exact hlast.2
  | true =>
    rw [if_pos hover] at hlast
    obtain ⟨last, cause, ⟨hcounted, hnoted⟩, hfailures, hlingers⟩ := hlast
    obtain ⟨_, htold⟩ := (layer.keeps_counted environ t).told service.failure hcounted
    obtain ⟨late, hevents, hlate⟩ := hlingers.events
    obtain ⟨toldSpan, htoldSpan⟩ := Option.isSome_iff_exists.mp hcounted.1
    obtain ⟨new, before, after, hnew, hbefore, hsettled, honce⟩ :=
      htold.settled htoldSpan hevents hlate
    have hspan : (layer.told service.failure last).request.span = some (.distributed (span.keeping
        (layer.recordAfter span.kind (layer.readiedRecord environ span.kind first)
          (Event.starts before) []))) := by
      rw [← spanAfter_keeping hsilent, ← hready, hbefore]
      exact hnoted.told_span service.failure hnew
    have hopening : (layer.opening environ server t).telemetry.exported = t.exported := by
      simp [opening, begin_eq, Telemetry.emit, hexportedReady]
    have hexported := hlingers.exported.trans (conclude_keeping hspan cause)
    rw [hnoted.told_exported, hopening, ← hfailures] at hexported
    rw [if_pos rfl]
    exact ⟨cause, _, Event.starts before, hfailures, hsettled,
      ⟨before, _, after, rfl, honce, rfl⟩, hexported⟩

end Layer

end RequestTracing
