import RequestTracing.Proofs.Request.Course
import RequestTracing.Proofs.Span.Updates
/-!
What the operations of a layer do to the span of a request and to the events: updates of the span as
long as the request lasts, one end of it, and nothing but the metrics after that.
-/
namespace RequestTracing

namespace Span

theorem setStatus_eq_act (span : Span) (status : SpanStatus) (t : Telemetry) :
    span.setStatus status t = span.act (.setStatus status) t := rfl

@[simp] theorem release_finish (span : Span) (t : Telemetry) :
    (span.finish t).1.release (span.finish t).2 = (span.finish t).2 := by
  cases span with
  | observed number kind => rfl
  | logged span => rfl
  | distributed span =>
    cases hrecord : span.record <;> simp [finish, release, DistributedSpan.finish, hrecord]

theorem enter_events (span : Span) (t : Telemetry) :
    ∃ new, (span.enter t).events = t.events ++ new ∧
      ∀ event ∈ new, ∃ number, event = .enterSpan number := by
  cases span with
  | observed number kind => exact ⟨[.enterSpan number], rfl, by simp⟩
  | logged span => exact ⟨[], by simp [enter], by simp⟩
  | distributed span => exact ⟨[], by simp [enter, Telemetry.enter], by simp⟩

@[simp] theorem enter_exported (span : Span) (t : Telemetry) :
    (span.enter t).exported = t.exported := by
  cases span <;> rfl

@[simp] theorem leave_events (span : Span) (t : Telemetry) :
    (span.leave t).events = t.events := by
  unfold leave
  split <;> rfl

@[simp] theorem leave_exported (span : Span) (t : Telemetry) :
    (span.leave t).exported = t.exported := by
  unfold leave
  split <;> rfl

end Span

namespace Request

theorem enter_events (request : Request) (t : Telemetry) :
    ∃ new, (request.enter t).events = t.events ++ new ∧
      ∀ event ∈ new, ∃ number, event = .enterSpan number := by
  unfold enter
  split
  · exact Span.enter_events _ t
  · exact ⟨[], by simp, by simp⟩

@[simp] theorem enter_recording (request : Request) (t : Telemetry) :
    (request.enter t).recording = t.recording := by
  unfold enter
  split
  · rename_i span hspan
    cases span <;> rfl
  · rfl

@[simp] theorem leave_recording (request : Request) (t : Telemetry) :
    (request.leave t).recording = t.recording := by
  unfold leave Span.leave
  split
  · split <;> rfl
  · rfl

@[simp] theorem enter_exported (request : Request) (t : Telemetry) :
    (request.enter t).exported = t.exported := by
  unfold enter
  split <;> simp

@[simp] theorem leave_events (request : Request) (t : Telemetry) :
    (request.leave t).events = t.events := by
  unfold leave
  split <;> simp

@[simp] theorem leave_exported (request : Request) (t : Telemetry) :
    (request.leave t).exported = t.exported := by
  unfold leave
  split <;> simp

/-- The end of a request whose span lasts: perhaps an outcome, and then one end of the span. -/
theorem endSpan_events {request : Request} {span : Span} (hspan : request.span = some span)
    (status : Option SpanStatus) (t : Telemetry) :
    (request.endSpan status t).1 = { request with span := none } ∧
    ∃ updates ends exports, (request.endSpan status t).2.events = t.events ++ updates ++ ends ∧
      (request.endSpan status t).2.exported = t.exported ++ exports ∧
      (∀ event ∈ updates, event.isSpanUse = true ∧ event.isSpanEnd = false) ∧
      (∀ event ∈ ends, event.isSpanEnd = true) ∧
      ends.length + exports.length = if span.showsEnd then 1 else 0 := by
  cases status with
  | none =>
    obtain ⟨ends, exports, hends, hexports, hall, hcount⟩ := span.finish_events t
    exact ⟨by simp [endSpan, hspan], [], ends, exports, by simpa [endSpan, hspan] using hends,
      by simpa [endSpan, hspan] using hexports, by simp, hall, hcount⟩
  | some status =>
    have hother : SpanAction.setStatus status ≠ .finish := by simp
    obtain ⟨updates, hupdates, huse⟩ := span.act_events (.setStatus status) t
    have hshows := span.act_showsEnd hother t
    have hexported := span.act_exported hother t
    rw [← Span.setStatus_eq_act] at hupdates hshows hexported
    obtain ⟨ends, exports, hends, hexports, hall, hcount⟩ :=
      (span.setStatus status t).1.finish_events (span.setStatus status t).2
    refine ⟨by simp [endSpan, hspan], updates, ends, exports, ?_, ?_, ?_, hall, ?_⟩
    · simp [endSpan, hspan, hends, hupdates]
    · simp [endSpan, hspan, hexports, hexported]
    · intro event he
      obtain ⟨hspanUse, hend⟩ := huse event he
      exact ⟨hspanUse, by simpa using hend⟩
    · rw [hcount, hshows]

end Request

namespace Tracer

variable (tracer : Tracer) (name : String) (attributes : Attributes) (environ : Environ)
  (t : Telemetry)

theorem start_events : ∃ new, (tracer.start name attributes environ t).2.events = t.events ++ new ∧
    ∀ event ∈ new, event.isSpanUse = false ∧ event.isMetric = false ∧ event.start? = none := by
  cases tracer with
  | observer kind => exact ⟨[_], rfl, by simp [Event.isSpanUse, Event.isSpanEnd, Event.isMetric,
      Event.start?]⟩
  | log => exact ⟨[_], rfl, by simp [Event.isSpanUse, Event.isSpanEnd, Event.isMetric,
      Event.start?, LoggedSpan.startRecord, LogRecord.isSpanEnd]⟩
  | distributed exporting own =>
    refine ⟨[], ?_, by simp⟩
    cases exporting with
    | false => simp [start]
    | true =>
      cases hparent : (parent (own.getD t.propagator) environ t).1 <;>
        simp [start, DistributedSpan.start, hparent]

theorem start_exported :
    (tracer.start name attributes environ t).2.exported = t.exported := by
  cases tracer with
  | observer kind => rfl
  | log => rfl
  | distributed exporting own =>
    cases exporting with
    | false => simp [start]
    | true =>
      cases hparent : (parent (own.getD t.propagator) environ t).1 <;>
        simp [start, DistributedSpan.start, hparent]

end Tracer

namespace Layer

variable (layer : Layer)

/-- Whether the hook for requests makes use of some update. -/
def RequestHookUses (environ : Environ) (action : SpanAction) : Prop :=
  ∃ hook, layer.requestHook = some hook ∧ (hook environ).Uses action

def ResponseHookUses (environ : Environ) (start : ResponseStart) (action : SpanAction) : Prop :=
  ∃ hook, layer.responseHook = some hook ∧ (hook environ start).Uses action

/-- Whether the hooks of a layer make use of some update, for any request. -/
def HooksUse (action : SpanAction) : Prop :=
  ∃ environ, layer.RequestHookUses environ action ∨
    ∃ start, layer.ResponseHookUses environ start action

def IsSilent : Prop :=
  ∀ action, ¬ layer.HooksUse action

/-- A layer that reports all its uses of spans and all its measurements. Its hook for responses sets
an attribute if the span keeps it. -/
def observing : Layer :=
  { tracer := .observer .server
    meter := .observer
    capture := {}
    requestHook := some fun _ => .done
    responseHook := some fun _ start => .look fun recording _ =>
      if recording then .act (.setAttribute "status" (.text start.status)) .done else .done }

theorem observing_hooksUse {action : SpanAction} (h : observing.HooksUse action) :
    ∃ value, action = .setAttribute "status" value := by
  rcases h with ⟨environ, ⟨hook, hhook, huses⟩ | ⟨start, hook, hhook, huses⟩⟩
  · cases hhook
    exact huses.elim
  · cases hhook
    obtain ⟨recording, _, huses⟩ := huses
    cases recording with
    | true => exact ⟨_, huses.resolve_right id⟩
    | false => exact huses.elim

section Closed

variable {allowed : SpanAction → Prop} {kind : (Span → Telemetry → Span × Telemetry) → Prop}
  (h : Span.IsClosed allowed kind)

include h

theorem runRequestHook_of_isClosed (hmark : kind fun span t => (span, t.emit .requestHook))
    {environ : Environ}
    (huses : ∀ action, layer.RequestHookUses environ action → allowed action) :
    kind (layer.runRequestHook environ) := by
  unfold runRequestHook
  cases hhook : layer.requestHook with
  | none => exact h.keep
  | some hook =>
    exact h.comp hmark (h.run fun action haction => huses action ⟨hook, hhook, haction⟩)

theorem runResponseHook_of_isClosed (hmark : kind fun span t => (span, t.emit .responseHook))
    {environ : Environ} {start : ResponseStart}
    (huses : ∀ action, layer.ResponseHookUses environ start action → allowed action) :
    kind (layer.runResponseHook environ start) := by
  unfold runResponseHook
  cases hhook : layer.responseHook with
  | none => exact h.keep
  | some hook =>
    exact h.comp hmark (h.run fun action haction => huses action ⟨hook, hhook, haction⟩)

variable (hattribute : ∀ name value, allowed (.setAttribute name value))

include hattribute

/-- A span that was just started is made ready with the captured headers and the hook. -/
theorem ready_of_isClosed (hmark : kind fun span t => (span, t.emit .requestHook))
    (environ : Environ)
    (huses : ∀ action, layer.RequestHookUses environ action → allowed action) :
    kind fun span t =>
      let (span, t) := setHeaders (layer.capture.requestAttributes environ) span t
      layer.runRequestHook environ span t := by
  have hheaders : kind (setHeaders (layer.capture.requestAttributes environ)) :=
    h.setHeaders fun entry _ => hattribute entry.1 entry.2
  exact h.comp hheaders (layer.runRequestHook_of_isClosed h hmark huses)

theorem annotateSpan_of_isClosed (hstatus : ∀ status, allowed (.setStatus status))
    (hmark : kind fun span t => (span, t.emit .responseHook)) (environ : Environ)
    (start : ResponseStart)
    (huses : ∀ action, layer.ResponseHookUses environ start action → allowed action) :
    kind (layer.annotateSpan environ start) := by
  have hline : kind fun span => span.applyStatus start.status :=
    h.applyStatus start.status (fun code => hattribute _ _) hstatus
  have hheaders : kind (setHeaders (layer.capture.responseAttributes start.headers)) :=
    h.setHeaders fun entry _ => hattribute entry.1 entry.2
  exact h.comp (h.comp hline hheaders) (layer.runResponseHook_of_isClosed h hmark huses)

end Closed

section Silent

variable {layer : Layer}

theorem isSilent_of_none (hrequest : layer.requestHook = none)
    (hresponse : layer.responseHook = none) : layer.IsSilent := by
  rintro action ⟨environ, ⟨hook, hhook, _⟩ | ⟨start, hook, hhook, _⟩⟩
  · rw [hrequest] at hhook
    cases hhook
  · rw [hresponse] at hhook
    cases hhook

variable (hsilent : layer.IsSilent)

include hsilent

theorem runRequestHook_eq (environ : Environ) (span : Span) (t : Telemetry) :
    layer.runRequestHook environ span t =
      (span, t.emitAll (if layer.requestHook.isSome then [.requestHook] else [])) := by
  unfold runRequestHook
  cases hhook : layer.requestHook with
  | none => rfl
  | some hook =>
    apply SpanRoutine.run_of_not_uses
    intro action haction
    exact hsilent action ⟨environ, .inl ⟨hook, hhook, haction⟩⟩

theorem runResponseHook_eq (environ : Environ) (start : ResponseStart) (span : Span)
    (t : Telemetry) :
    layer.runResponseHook environ start span t =
      (span, t.emitAll (if layer.responseHook.isSome then [.responseHook] else [])) := by
  unfold runResponseHook
  cases hhook : layer.responseHook with
  | none => rfl
  | some hook =>
    apply SpanRoutine.run_of_not_uses
    intro action haction
    exact hsilent action ⟨environ, .inr ⟨start, hook, hhook, haction⟩⟩

end Silent

/-- Only a hook ends a span before its request ends. -/
def MayDo (action : SpanAction) : Prop :=
  action = .finish → layer.HooksUse .finish

theorem annotateSpan_reaches (environ : Environ) (start : ResponseStart) (span : Span)
    (t : Telemetry) :
    Span.Reaches layer.MayDo (span, t) (layer.annotateSpan environ start span t) := by
  have hall := layer.annotateSpan_of_isClosed (Span.isClosed_reaches layer.MayDo)
    (by simp [MayDo]) (by simp [MayDo]) (fun _ _ => .hook _ (.inr rfl) .refl) environ start
    fun action hused hfinish => ⟨environ, .inr ⟨start, hfinish ▸ hused⟩⟩
  exact hall span t

theorem annotate_of_none {request : Request} (h : request.span = none) (start : ResponseStart)
    (t : Telemetry) : layer.annotate start request t = (request.label start.status, t) := by
  simp [annotate, Request.label, h]

theorem annotate_of_some {request : Request} {span : Span} (h : request.span = some span)
    (start : ResponseStart) (t : Telemetry) :
    layer.annotate start request t =
      ({ request.label start.status with
          span := some (layer.annotateSpan request.environ start span t).1 },
        (layer.annotateSpan request.environ start span t).2) := by
  simp [annotate, Request.label, h]

/-- A move after the end of the request leaves nothing but late events. -/
theorem move_of_none {course : Course} (h : course.request.span = none) {move : Move}
    (hown : move.IsOwn) :
    (layer.move course move).request.span = none ∧
      (layer.move course move).telemetry.exported = course.telemetry.exported ∧
      ∃ more, (layer.move course move).telemetry.events = course.telemetry.events ++ more ∧
        ∀ event ∈ more, event.isLate = true := by
  cases move with
  | report events =>
    refine ⟨h, by simp [Layer.move, Telemetry.emitAll_eq], events, by simp [Layer.move], ?_⟩
    intro event he
    simp [Event.isLate, hown event he]
  | respond start =>
    have hcourse := layer.annotate_of_none h start course.telemetry
    refine ⟨by simp [Layer.move, hcourse, Request.label, h],
      by simp [Layer.move, hcourse, Telemetry.emit], [.server course.server.request start],
      by simp [Layer.move, hcourse], ?_⟩
    intro event he
    rw [List.mem_singleton.mp he]
    rfl

/-- At the end of a request its span ends, a duration is recorded and the count is taken back. -/
theorem conclude_events {course : Course} {span : Span} (h : course.request.span = some span)
    (status : Option SpanStatus) :
    ∃ updates ends exports, (layer.conclude status course).telemetry.events =
        course.telemetry.events ++ updates ++ ends ++
          [layer.meter.duration none course.request.durationLabels,
            layer.meter.active (-1) course.request.activeLabels] ∧
      (layer.conclude status course).telemetry.exported = course.telemetry.exported ++ exports ∧
      (∀ event ∈ updates, event.isSpanUse = true ∧ event.isSpanEnd = false) ∧
      (∀ event ∈ ends, event.isSpanEnd = true) ∧
      ends.length + exports.length = if span.showsEnd then 1 else 0 := by
  obtain ⟨hrequest, updates, ends, exports, hevents, hexports, hupdates, hends, hlength⟩ :=
    Request.endSpan_events h status course.telemetry
  refine ⟨updates, ends, exports, ?_, ?_, hupdates, hends, hlength⟩
  · simp [conclude, settle, hrequest, hevents]
  · simp [conclude, settle, hexports, Telemetry.emitAll_eq]

theorem settle_span (status : Option SpanStatus) (request : Request) (t : Telemetry) :
    (layer.settle status request t).1.span = none := by
  cases hspan : request.span <;> simp [settle, Request.endSpan, hspan]

theorem conclude_span (status : Option SpanStatus) (course : Course) :
    (layer.conclude status course).request.span = none :=
  layer.settle_span status course.request course.telemetry

def started (environ : Environ) (t : Telemetry) : Span × Telemetry :=
  layer.tracer.start (Http.spanName environ layer.capture.allMethods)
    (Http.requestAttributes environ layer.capture.allMethods) environ t

def activeLabels (environ : Environ) : Attributes :=
  Http.activeLabels (Http.requestAttributes environ layer.capture.allMethods)

/-- The span of a request when its layer and a hook have set it up. -/
def readied (environ : Environ) (t : Telemetry) : Span × Telemetry :=
  let (span, t) := layer.started environ t
  let (span, t) := setHeaders (layer.capture.requestAttributes environ) span t
  layer.runRequestHook environ span t

theorem begin_eq (environ : Environ) (t : Telemetry) :
    layer.begin environ t =
      ({ environ
         span := some (layer.readied environ t).1
         activeLabels := layer.activeLabels environ
         durationLabels := Http.durationLabels
          (Http.requestAttributes environ layer.capture.allMethods) },
        (layer.readied environ t).2.emit (layer.meter.active 1 (layer.activeLabels environ))) := by
  simp only [Layer.begin, readied, started, activeLabels]

theorem readied_reaches (environ : Environ) (t : Telemetry) :
    Span.Reaches layer.MayDo (layer.started environ t) (layer.readied environ t) := by
  have hall := layer.ready_of_isClosed (Span.isClosed_reaches layer.MayDo) (by simp [MayDo])
    (fun _ _ => .hook _ (.inl rfl) .refl) environ
    fun action hused hfinish => ⟨environ, .inl (hfinish ▸ hused)⟩
  exact hall (layer.started environ t).1 (layer.started environ t).2

/-- Before a request is counted, there are only the start and the uses of its span. -/
theorem readied_events (environ : Environ) (t : Telemetry) :
    ∃ new, (layer.readied environ t).2.events = t.events ++ new ∧
      ∀ event ∈ new, event.isMetric = false ∧ event.start? = none ∧
        (event.isSpanEnd = true → layer.HooksUse .finish) := by
  obtain ⟨started, hstarted, hstart⟩ := layer.tracer.start_events
    (Http.spanName environ layer.capture.allMethods)
    (Http.requestAttributes environ layer.capture.allMethods) environ t
  obtain ⟨more, hmore, huse⟩ := (layer.readied_reaches environ t).events
  refine ⟨started ++ more, ?_, fun event he => ?_⟩
  · rw [← List.append_assoc, ← hstarted]
    exact hmore
  rcases List.mem_append.mp he with he | he
  · obtain ⟨hspan, hmetric, hserver⟩ := hstart event he
    refine ⟨hmetric, hserver, fun hend => ?_⟩
    rw [Event.isSpanUse_of_isSpanEnd hend] at hspan
    contradiction
  · obtain ⟨hspan, hend⟩ := huse event he
    exact ⟨Event.isMetric_eq_false_of_isSpanUse hspan, Event.start?_eq_none_of_isSpanUse hspan,
      fun hisEnd => hend hisEnd rfl⟩

theorem starts_counted {environ : Environ} {t : Telemetry} {new : List Event}
    (hnew : (layer.readied environ t).2.events = t.events ++ new) :
    Event.starts (new ++ [layer.meter.active 1 (layer.activeLabels environ)]) = [] := by
  obtain ⟨others, hothers, hquiet⟩ := layer.readied_events environ t
  obtain rfl : others = new := List.append_cancel_left (hothers.symm.trans hnew)
  refine Event.starts_eq_nil fun event he => ?_
  rcases List.mem_append.mp he with he | he
  · exact (hquiet event he).2.1
  · rw [List.mem_singleton.mp he]
    exact Event.start?_eq_none_of_isMetric (layer.meter.isMetric_active _ _)

end Layer

end RequestTracing
