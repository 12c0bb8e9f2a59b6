import RequestTracing.Proofs.Span.Current
/-!
Where spans stand in their traces. A span of a distributed trace keeps from its start its identity,
its kind and the span that it is a part of, and if it is sampled it is exported with these.
-/
namespace RequestTracing

/-- Where a span stands in a trace. -/
structure Place where
  context : SpanContext
  kind : SpanKind
  /-- The span that it is a part of, zero for none. -/
  parent : BitVec 64

def ExportedSpan.place (span : ExportedSpan) : Place :=
  { context := span.context, kind := span.kind, parent := span.parent }

namespace Telemetry

/-- The part of the state from which spans of distributed traces start and to which they are
exported. -/
def traced (t : Telemetry) : Telemetry :=
  { t.bare with exported := t.exported }

@[simp] theorem traced_emit (t : Telemetry) (event : Event) : (t.emit event).traced = t.traced :=
  rfl

@[simp] theorem traced_exported (t : Telemetry) : t.traced.exported = t.exported := rfl

@[simp] theorem traced_bare (t : Telemetry) : t.traced.bare = t.bare := rfl

theorem traced_eq_iff {t other : Telemetry} :
    t.traced = other.traced ↔ t.bare = other.bare ∧ t.exported = other.exported := by
  refine ⟨fun h => ⟨?_, congrArg (·.exported) h⟩, fun ⟨hbare, hexported⟩ => ?_⟩
  · rw [← t.traced_bare, h, traced_bare]
  · unfold traced
    rw [hbare, hexported]

end Telemetry

namespace DistributedSpan

variable (name : String) (kind : SpanKind) (attributes : Attributes) (parent : Option SpanContext)
  (t : Telemetry)

theorem start_spanId : (start name kind attributes parent t).1.context.spanId =
    BitVec.ofNat 64 (t.spanIds + 1) := by
  cases parent <;> rfl

theorem start_spanIds : (start name kind attributes parent t).2.spanIds = t.spanIds + 1 := by
  cases parent <;> rfl

/-- A span is in the trace of its parent, or else in one of its own. -/
theorem start_traceId : (start name kind attributes parent t).1.context.traceId =
    (parent.map (·.traceId)).getD (BitVec.ofNat 128 (t.traceIds + 1)) := by
  cases parent <;> rfl

/-- A span is sampled if its parent is, and always without a parent. -/
theorem start_isSampled :
    (start name kind attributes parent t).1.context.isSampled = parent.all (·.isSampled) := by
  have hflags (sampled : Bool) :
      decide ((if sampled then (1 : UInt8) else 0) &&& 1 = 1) = sampled := by
    cases sampled <;> rfl
  exact hflags _

end DistributedSpan

namespace Span

variable {place : Place} {span : Span}

/-- Whether a span that has not ended stands at a place. It keeps a record if it is sampled. -/
def IsAt (place : Place) (span : Span) : Prop :=
  ∃ kept, span = .distributed kept ∧ kept.context = place.context ∧ kept.kind = place.kind ∧
    kept.record.map (·.parent) = if place.context.isSampled then some place.parent else none

theorem IsAt.context? (h : span.IsAt place) : span.context? = some place.context := by
  obtain ⟨kept, rfl, hcontext, _⟩ := h
  exact congrArg some hcontext

theorem IsAt.act (h : span.IsAt place) {action : SpanAction} (haction : action ≠ .finish)
    (t : Telemetry) : (span.act action t).1.IsAt place := by
  obtain ⟨kept, rfl, hcontext, hkind, hrecord⟩ := h
  cases action with
  | setAttribute name value =>
    refine ⟨kept.setAttribute name value, rfl, hcontext, hkind, ?_⟩
    rw [← hrecord]
    simp [DistributedSpan.setAttribute, Function.comp_def]
  | setStatus status =>
    refine ⟨kept.setStatus status, rfl, hcontext, hkind, ?_⟩
    rw [← hrecord]
    simp only [DistributedSpan.setStatus, Option.map_map]
    congr 1
    funext record
    dsimp only [Function.comp_apply]
    split <;> rfl
  | finish => exact absurd rfl haction
  | setRecording on => exact ⟨kept, rfl, hcontext, hkind, hrecord⟩

theorem Reaches.isAt {allowed : SpanAction → Prop} {start last : Span × Telemetry}
    (h : Reaches allowed start last) (hspare : ¬ allowed .finish) (hat : start.1.IsAt place) :
    last.1.IsAt place := by
  induction h with
  | refl => exact hat
  | act action allows _ ih => exact ih.act (fun hfinish => hspare (hfinish ▸ allows)) _
  | hook event isHook _ ih => exact ih

theorem IsAt.finish (h : span.IsAt place) (t : Telemetry) :
    ∃ spans, (span.finish t).2.exported = t.exported ++ spans ∧
      spans.map ExportedSpan.place = if place.context.isSampled then [place] else [] := by
  obtain ⟨kept, rfl, hcontext, hkind, hrecord⟩ := h
  cases hsampled : place.context.isSampled with
  | false =>
    have hnone : kept.record = none := by simpa [hsampled] using hrecord
    exact ⟨[], by simp [Span.finish, DistributedSpan.finish, hnone], rfl⟩
  | true =>
    obtain ⟨record, hsome, hparent⟩ : ∃ record, kept.record = some record ∧
        record.parent = place.parent := by simpa [hsampled] using hrecord
    refine ⟨[_], by simp only [Span.finish, DistributedSpan.finish, hsome]; rfl, ?_⟩
    simp [ExportedSpan.place, hcontext, hkind, hparent]

end Span

namespace Request

def IsAt (place : Place) (request : Request) : Prop :=
  ∃ span, request.span = some span ∧ span.IsAt place

variable {place : Place} {request : Request}

theorem IsAt.currents (h : request.IsAt place) : request.currents = [place.context] := by
  obtain ⟨span, hspan, hat⟩ := h
  rw [currents_of_some hspan, hat.context?]
  rfl

/-- At the end of a request its span is exported where it stands, if it is sampled. -/
theorem IsAt.endSpan (h : request.IsAt place) (status : Option SpanStatus) (t : Telemetry) :
    ∃ spans, (request.endSpan status t).2.exported = t.exported ++ spans ∧
      spans.map ExportedSpan.place = if place.context.isSampled then [place] else [] := by
  obtain ⟨span, hspan, hat⟩ := h
  cases status with
  | none => simpa [Request.endSpan, hspan] using hat.finish t
  | some status =>
    have hother : SpanAction.setStatus status ≠ .finish := by simp
    have hsame := span.act_exported hother t
    have hset := hat.act hother t
    rw [← Span.setStatus_eq_act] at hsame hset
    simpa [Request.endSpan, hspan, hsame] using hset.finish (span.setStatus status t).2

end Request

namespace Layer

variable (layer : Layer)

/-- Where the span of a request is put by a layer with a propagator of its own or that of the
process. -/
def place (own : Option Propagator) (environ : Environ) (t : Telemetry) : Place :=
  let (parent, kind) := Tracer.parent (own.getD t.propagator) environ t
  { context := ((layer.started environ t).1.context?).getD .invalid
    kind
    parent := (parent.map (·.spanId)).getD 0 }

theorem place_congr (own : Option Propagator) (environ : Environ) {t other : Telemetry}
    (h : t.bare = other.bare) : layer.place own environ t = layer.place own environ other := by
  have hpropagator : t.propagator = other.propagator := congrArg (·.propagator) h
  have hentered : t.entered = other.entered := congrArg (·.entered) h
  unfold place
  rw [(layer.started_congr environ h).1, hpropagator, Tracer.parent_congr _ environ hentered]

/-- The places of the spans of layers one within the other, the outermost first. -/
def places (own : Option Propagator) : List Layer → Environ → Telemetry → List Place
  | [], _, _ => []
  | layer :: layers, environ, t =>
    layer.place own environ t :: places own layers environ (layer.entry environ t)

/-- A span of a distributed trace that is exported starts with what its tracer finds of a parent. -/
theorem started_distributed {own : Option Propagator}
    (htracer : layer.tracer = .distributed true own) (environ : Environ) (t : Telemetry) :
    ∃ name attributes,
      let parent := Tracer.parent (own.getD t.propagator) environ t
      let start := DistributedSpan.start name parent.2 attributes parent.1 t
      layer.started environ t = (.distributed start.1, start.2) ∧
        layer.place own environ t =
          { context := start.1.context, kind := parent.2
            parent := (parent.1.map (·.spanId)).getD 0 } := by
  unfold place started
  rw [htracer]
  exact ⟨_, _, rfl, rfl⟩

theorem started_isAt {own : Option Propagator} (htracer : layer.tracer = .distributed true own)
    (environ : Environ) (t : Telemetry) :
    (layer.started environ t).1.IsAt (layer.place own environ t) := by
  obtain ⟨name, attributes, hstarted, hplace⟩ := layer.started_distributed htracer environ t
  rw [hstarted, hplace]
  refine ⟨_, rfl, rfl, rfl, ?_⟩
  dsimp only
  rw [DistributedSpan.start_isSampled]
  cases Tracer.parent (own.getD t.propagator) environ t with
  | mk parent kind => cases parent <;> simp [DistributedSpan.start]

section Quiet

variable {layer : Layer} (hquiet : ¬ layer.HooksUse .finish)

include hquiet

theorem not_mayDo_finish : ¬ layer.MayDo .finish :=
  fun hmay => hquiet (hmay rfl)

theorem begin_isAt {own : Option Propagator} (htracer : layer.tracer = .distributed true own)
    (environ : Environ) (t : Telemetry) :
    (layer.begin environ t).1.IsAt (layer.place own environ t) := by
  rw [begin_eq]
  exact ⟨_, rfl, (layer.readied_reaches environ t).isAt (not_mayDo_finish hquiet)
    (layer.started_isAt htracer environ t)⟩

theorem begin_exported (environ : Environ) (t : Telemetry) :
    (layer.begin environ t).2.exported = t.exported := by
  rw [begin_eq]
  exact ((layer.readied_reaches environ t).exported (not_mayDo_finish hquiet)).trans
    (layer.tracer.start_exported _ _ environ t)

theorem annotate_isAt {place : Place} {request : Request} (hat : request.IsAt place)
    (start : ResponseStart) (t : Telemetry) :
    (layer.annotate start request t).1.IsAt place ∧
      (layer.annotate start request t).2.traced = t.traced := by
  obtain ⟨span, hspan, hplace⟩ := hat
  have hreaches := layer.annotateSpan_reaches request.environ start span t
  have hexported := hreaches.exported (not_mayDo_finish hquiet)
  have hbare := (layer.annotate_bare start request t).2
  rw [layer.annotate_of_some hspan] at hbare ⊢
  exact ⟨⟨_, rfl, hreaches.isAt (not_mayDo_finish hquiet) hplace⟩,
    Telemetry.traced_eq_iff.mpr ⟨hbare, hexported⟩⟩

end Quiet

end Layer

end RequestTracing
