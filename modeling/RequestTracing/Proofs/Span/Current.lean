import RequestTracing.Proofs.Request.Operations
/-!
The spans that are current. A request makes its span current when that is entered. Updates of spans
touch neither the spans that are current nor anything else from which a span starts.
-/
namespace RequestTracing

namespace Telemetry

/-- The part of the state from which spans of distributed traces start: the spans that are current,
the propagator, and how many identifiers were handed out. -/
def bare (t : Telemetry) : Telemetry :=
  { entered := t.entered
    propagator := t.propagator
    traceIds := t.traceIds
    spanIds := t.spanIds }

@[simp] theorem bare_emit (t : Telemetry) (event : Event) : (t.emit event).bare = t.bare := rfl

@[simp] theorem bare_emitAll (t : Telemetry) (events : List Event) :
    (t.emitAll events).bare = t.bare := by
  rw [emitAll_eq]
  rfl

def under (t : Telemetry) (contexts : List SpanContext) : Telemetry :=
  { t with entered := contexts ++ t.entered }

@[simp] theorem under_entered (t : Telemetry) (contexts : List SpanContext) :
    (t.under contexts).entered = contexts ++ t.entered := rfl

def leaving (t : Telemetry) (contexts : List SpanContext) : Telemetry :=
  { t with entered := t.entered.drop contexts.length }

theorem leaving_entered {t : Telemetry} {contexts entered : List SpanContext}
    (h : t.entered = contexts ++ entered) : (t.leaving contexts).entered = entered := by
  simp [leaving, h]

@[simp] theorem bare_entered (t : Telemetry) : t.bare.entered = t.entered := rfl

end Telemetry

namespace Span

/-- What a span makes current when it is entered. -/
def context? : Span → Option SpanContext
  | .distributed span => some span.context
  | _ => none

theorem enter_bare (span : Span) (t : Telemetry) :
    (span.enter t).bare = t.bare.under span.context?.toList := by
  cases span <;> rfl

theorem leave_bare (span : Span) (t : Telemetry) :
    (span.leave t).bare = t.bare.leaving span.context?.toList := by
  cases span with
  | observed number kind => rfl
  | logged span => rfl
  | distributed span =>
    simp [leave, isAttached, Telemetry.leave, Telemetry.leaving, Telemetry.bare, context?]

theorem finish_bare (span : Span) (t : Telemetry) :
    (span.finish t).1.context? = span.context? ∧ (span.finish t).2.bare = t.bare := by
  cases span with
  | observed number kind => exact ⟨rfl, rfl⟩
  | logged span =>
    cases hended : span.ended <;> simp [finish, LoggedSpan.finish, hended, context?]
  | distributed span =>
    cases hrecord : span.record <;>
      simp [finish, DistributedSpan.finish, hrecord, context?, Telemetry.bare]

theorem isClosed_bare : IsClosed (fun _ => True) fun update => ∀ span t,
    (update span t).1.context? = span.context? ∧ (update span t).2.bare = t.bare :=
  isClosed_of_steps (R := fun start last =>
      last.1.context? = start.1.context? ∧ last.2.bare = start.2.bare)
    (fun _ => ⟨rfl, rfl⟩) (fun h rest => ⟨rest.1.trans h.1, rest.2.trans h.2⟩)
    fun action _ span t => by
      cases action with
      | setAttribute name value => cases span <;> exact ⟨rfl, rfl⟩
      | setStatus status => cases span <;> exact ⟨rfl, rfl⟩
      | finish => exact span.finish_bare t
      | setRecording on => exact ⟨rfl, rfl⟩

end Span

namespace Request

/-- What a request makes current when its span is entered, if anything. -/
def currents (request : Request) : List SpanContext :=
  (request.span.bind Span.context?).toList

theorem currents_of_some {request : Request} {span : Span} (h : request.span = some span) :
    request.currents = span.context?.toList := by
  simp [currents, h]

theorem enter_bare (request : Request) (t : Telemetry) :
    (request.enter t).bare = t.bare.under request.currents := by
  unfold enter currents
  split
  · rename_i span hspan
    rw [hspan]
    exact span.enter_bare t
  · rename_i hspan
    rw [hspan]
    rfl

theorem leave_bare (request : Request) (t : Telemetry) :
    (request.leave t).bare = t.bare.leaving request.currents := by
  unfold leave currents
  split
  · rename_i span hspan
    rw [hspan]
    exact span.leave_bare t
  · rename_i hspan
    rw [hspan]
    rfl

theorem endSpan_bare (request : Request) (status : Option SpanStatus) (t : Telemetry) :
    (request.endSpan status t).2.bare = t.bare := by
  cases hspan : request.span with
  | none => simp [endSpan, hspan]
  | some span =>
    cases status with
    | none => simpa [endSpan, hspan] using (span.finish_bare t).2
    | some status =>
      have hset : (span.setStatus status t).2.bare = t.bare :=
        (Span.isClosed_bare.act (.setStatus status) trivial span t).2
      simpa [endSpan, hspan] using ((span.setStatus status t).1.finish_bare _).2.trans hset

end Request

/-- The parent of a span depends on nothing but the spans that are current. -/
theorem Tracer.parent_congr (propagator : Propagator) (environ : Environ) {t other : Telemetry}
    (h : t.entered = other.entered) :
    parent propagator environ t = parent propagator environ other := by
  simp [parent, Telemetry.current?, Telemetry.active?, h]

namespace Layer

variable (layer : Layer)

theorem annotate_bare (start : ResponseStart) (request : Request) (t : Telemetry) :
    (layer.annotate start request t).1.currents = request.currents ∧
      (layer.annotate start request t).2.bare = t.bare := by
  cases hspan : request.span with
  | none =>
    rw [layer.annotate_of_none hspan]
    exact ⟨rfl, rfl⟩
  | some span =>
    have hall := layer.annotateSpan_of_isClosed Span.isClosed_bare (fun _ _ => trivial)
      (fun _ => trivial) (fun _ _ => ⟨rfl, rfl⟩) request.environ start (fun _ _ => trivial)
    obtain ⟨hcontext, hbare⟩ := hall span t
    rw [layer.annotate_of_some hspan]
    refine ⟨?_, hbare⟩
    rw [Request.currents_of_some hspan, ← hcontext]
    rfl

theorem settle_bare (status : Option SpanStatus) (request : Request) (t : Telemetry) :
    (layer.settle status request t).2.bare = t.bare := by
  simpa [settle] using request.endSpan_bare status t

theorem begin_bare (environ : Environ) (t : Telemetry) :
    (layer.begin environ t).1.currents = (layer.started environ t).1.context?.toList ∧
      (layer.begin environ t).2.bare = (layer.started environ t).2.bare := by
  have hall := layer.ready_of_isClosed Span.isClosed_bare (fun _ _ => trivial)
    (fun _ _ => ⟨rfl, rfl⟩) environ (fun _ _ => trivial)
  obtain ⟨hcontext, hbare⟩ := hall (layer.started environ t).1 (layer.started environ t).2
  rw [begin_eq]
  exact ⟨congrArg Option.toList hcontext, hbare⟩

theorem begin_entered (environ : Environ) (t : Telemetry) :
    (layer.begin environ t).2.entered = t.entered := by
  have hbegin : (layer.begin environ t).2.entered = (layer.started environ t).2.entered :=
    congrArg (·.entered) (layer.begin_bare environ t).2
  rw [hbegin]
  unfold started
  cases layer.tracer with
  | observer kind => rfl
  | log => rfl
  | distributed exporting own =>
    cases exporting with
    | false => simp [Tracer.start]
    | true =>
      cases hparent : (Tracer.parent (own.getD t.propagator) environ t).1 <;>
        simp [Tracer.start, DistributedSpan.start, hparent]

theorem begin_distributed {exporting : Bool} {own : Option Propagator}
    (htracer : layer.tracer = .distributed exporting own) (environ : Environ) (t : Telemetry) :
    ∃ span, (layer.begin environ t).1.span = some (.distributed span) ∧
      (layer.begin environ t).1.currents = [span.context] := by
  have hstarted : ∃ context, (layer.started environ t).1.context? = some context := by
    unfold started
    rw [htracer]
    cases exporting <;> exact ⟨_, rfl⟩
  obtain ⟨context, hcontext⟩ := hstarted
  obtain ⟨hcurrents, _⟩ := layer.begin_bare environ t
  rw [hcontext] at hcurrents
  have hspan : (layer.begin environ t).1.span = some (layer.readied environ t).1 := by
    rw [begin_eq]
  rw [Request.currents_of_some hspan] at hcurrents
  cases hready : (layer.readied environ t).1 with
  | observed number kind => simp [hready, Span.context?] at hcurrents
  | logged span => simp [hready, Span.context?] at hcurrents
  | distributed span =>
    rw [hready] at hspan
    exact ⟨span, hspan, Request.currents_of_some hspan⟩

/-- How a span starts depends on nothing but the part of the state from which spans start. -/
theorem started_congr (environ : Environ) {t other : Telemetry} (h : t.bare = other.bare) :
    (layer.started environ t).1.context? = (layer.started environ other).1.context? ∧
      (layer.started environ t).2.bare = (layer.started environ other).2.bare := by
  have hentered : t.entered = other.entered := congrArg (·.entered) h
  have hpropagator : t.propagator = other.propagator := congrArg (·.propagator) h
  have htraceIds : t.traceIds = other.traceIds := congrArg (·.traceIds) h
  have hspanIds : t.spanIds = other.spanIds := congrArg (·.spanIds) h
  have hparent (propagator : Propagator) := Tracer.parent_congr propagator environ hentered
  unfold started
  cases layer.tracer with
  | observer kind => exact ⟨rfl, h⟩
  | log => exact ⟨rfl, h⟩
  | distributed exporting own =>
    cases exporting with
    | false => simp [Tracer.start, hparent, hpropagator, h]
    | true =>
      cases hcontext : (Tracer.parent (own.getD other.propagator) environ other).1 <;>
        simp [Tracer.start, DistributedSpan.start, hparent, hpropagator, hcontext, Span.context?,
          Telemetry.bare, hspanIds, htraceIds, hentered]

/-- What a request makes current depends on nothing but what spans start from. -/
theorem begin_congr (environ : Environ) {t other : Telemetry} (h : t.bare = other.bare) :
    (layer.begin environ t).1.currents = (layer.begin environ other).1.currents ∧
      (layer.begin environ t).2.bare = (layer.begin environ other).2.bare := by
  obtain ⟨hcontext, hstarted⟩ := layer.started_congr environ h
  obtain ⟨hcurrents, hbare⟩ := layer.begin_bare environ t
  obtain ⟨hotherCurrents, hotherBare⟩ := layer.begin_bare environ other
  rw [hcurrents, hbare, hotherCurrents, hotherBare, hcontext, hstarted]
  exact ⟨rfl, rfl⟩

def entry (environ : Environ) (t : Telemetry) : Telemetry :=
  (layer.begin environ t).1.enter (layer.begin environ t).2

theorem entry_bare (environ : Environ) (t : Telemetry) : (layer.entry environ t).bare =
    (layer.begin environ t).2.bare.under (layer.begin environ t).1.currents :=
  (layer.begin environ t).1.enter_bare _

theorem entry_entered (environ : Environ) (t : Telemetry) :
    (layer.entry environ t).entered = (layer.begin environ t).1.currents ++ t.entered := by
  rw [← Telemetry.bare_entered, entry_bare, Telemetry.under_entered, Telemetry.bare_entered,
    begin_entered]

end Layer

end RequestTracing
