import RequestTracing.Proofs.Span.Place
import RequestTracing.Proofs.Trace.RoundTrip
/-!
The trace of a request within layers. The span of the outermost layer continues the trace of the
caller or starts one of its own, and the span of each further layer is a part of the span of the
layer around it.
-/
namespace RequestTracing

namespace Place

/-- Whether a span is a part of another one of the same process. -/
structure IsWithin (inner outer : Place) : Prop where
  kind : inner.kind = .internal
  parent : inner.parent = outer.context.spanId
  trace : inner.context.traceId = outer.context.traceId
  sampled : inner.context.isSampled = outer.context.isSampled

/-- Whether spans are parts one of the other, the first of them of a given one. -/
def Encloses : Place → List Place → Prop
  | _, [] => True
  | outer, inner :: rest => inner.IsWithin outer ∧ inner.Encloses rest

/-- Whether a span stands for a request that came in from a caller's span, if there is one. -/
structure IsEntry (upstream : Option SpanContext) (place : Place) : Prop where
  kind : place.kind = .server
  parent : place.parent = (upstream.map (·.spanId)).getD 0
  trace : ∀ caller ∈ upstream, place.context.traceId = caller.traceId
  sampled : place.context.isSampled = upstream.all (·.isSampled)

theorem Encloses.shared {first : Place} {rest : List Place} (h : first.Encloses rest) :
    ∀ place ∈ rest, place.context.traceId = first.context.traceId ∧
      place.context.isSampled = first.context.isSampled := by
  induction rest generalizing first with
  | nil => simp
  | cons inner rest ih =>
    obtain ⟨hinner, hrest⟩ := h
    refine List.forall_mem_cons.mpr ⟨⟨hinner.trace, hinner.sampled⟩, fun place hplace => ?_⟩
    obtain ⟨htrace, hsampled⟩ := ih hrest place hplace
    exact ⟨htrace.trans hinner.trace, hsampled.trans hinner.sampled⟩

end Place

/-- Whether spans, the outermost first, are the trace of a request from a caller's span, if there is
one. -/
structure IsTrace (upstream : Option SpanContext) (places : List Place) : Prop where
  nested : ∃ first rest, places = first :: rest ∧ first.IsEntry upstream ∧ first.Encloses rest
  shared : ∀ place ∈ places, ∀ other ∈ places, place.context.traceId = other.context.traceId
  distinct : places.Pairwise fun place other => place.context.spanId ≠ other.context.spanId

theorem IsTrace.filter_isSampled {upstream : Option SpanContext} {places : List Place}
    (h : IsTrace upstream places) : (places.filter fun place => place.context.isSampled) =
      if upstream.all (·.isSampled) then places else [] := by
  obtain ⟨first, rest, rfl, hfirst, hrest⟩ := h.nested
  have hall : ∀ place ∈ first :: rest,
      place.context.isSampled = upstream.all (·.isSampled) := by
    refine List.forall_mem_cons.mpr ⟨hfirst.sampled, fun place hplace => ?_⟩
    exact (hrest.shared place hplace).2.trans hfirst.sampled
  split
  · rename_i hsampled
    exact List.filter_eq_self.mpr fun place hplace => (hall place hplace).trans hsampled
  · rename_i hsampled
    exact List.filter_eq_nil_iff.mpr fun place hplace => hall place hplace ▸ hsampled

theorem TraceContext.isValid_of_readParent? {header : String} {context : SpanContext}
    (h : readParent? header = some context) : context.isValid = true := by
  unfold readParent? at h
  split at h
  · obtain ⟨version, _, h⟩ := Option.bind_eq_some_iff.mp h
    split at h
    · cases h
    · obtain ⟨trace, _, h⟩ := Option.bind_eq_some_iff.mp h
      obtain ⟨span, _, h⟩ := Option.bind_eq_some_iff.mp h
      obtain ⟨flags, _, h⟩ := Option.bind_eq_some_iff.mp h
      split at h
      · cases h
      · dsimp only at h
        split at h
        · rename_i hvalid
          exact Option.some.inj h ▸ hvalid
        · cases h
  · cases h

theorem Propagator.isValid_of_extract? {propagator : Propagator} {environ : Environ}
    {context : SpanContext} (h : propagator.extract? environ = some context) :
    context.isValid = true := by
  cases propagator with
  | none => cases h
  | traceContext =>
    obtain ⟨read, hread, rfl⟩ := Option.map_eq_some_iff.mp h
    have hvalid : read.isValid = true := TraceContext.isValid_of_readParent? hread
    exact hvalid

/-- Whether the identifiers that are handed out next, for one trace and a number of spans, are
valid. -/
structure Telemetry.HandsOut (t : Telemetry) (spans : Nat) : Prop where
  trace : BitVec.ofNat 128 (t.traceIds + 1) ≠ 0
  span : ∀ id, t.spanIds < id → id ≤ t.spanIds + spans → BitVec.ofNat 64 id ≠ 0

/-- Identifiers that are handed out one after the other are different as long as they are valid. -/
theorem nodup_identifiers {first count : Nat}
    (h : ∀ id, first < id → id ≤ first + count → BitVec.ofNat 64 id ≠ 0) :
    ((List.range' (first + 1) count).map (BitVec.ofNat 64)).Nodup := by
  induction count generalizing first with
  | zero => exact .nil
  | succ count ih =>
    rw [List.range'_succ, List.map_cons, List.nodup_cons]
    refine ⟨fun hmem => ?_, ih fun id hfirst hlast => h id (by omega) (by omega)⟩
    obtain ⟨id, hid, hsame⟩ := List.mem_map.mp hmem
    obtain ⟨hlow, hhigh⟩ : first + 1 + 1 ≤ id ∧ id < first + 1 + 1 + count := by simpa using hid
    have hmod : id % 2 ^ 64 = (first + 1) % 2 ^ 64 := by
      simpa using congrArg BitVec.toNat hsame
    -- Between two numbers with the same identifier there is one whose identifier is zero.
    refine h (id - id % 2 ^ 64) (by omega) (by omega) ?_
    apply BitVec.eq_of_toNat_eq
    simp
    omega

/-- Where no span is current, the parent of a span is that which the headers name. -/
theorem parent_of_entered_nil (propagator : Propagator) (environ : Environ) {t : Telemetry}
    (h : t.entered = []) :
    Tracer.parent propagator environ t = (propagator.extract? environ, .server) := by
  simp [Tracer.parent, Telemetry.current?, Telemetry.active?, h]

/-- The parent of a span is the current span, if that is valid. -/
theorem parent_of_entered_cons (propagator : Propagator) (environ : Environ) {t : Telemetry}
    {context : SpanContext} {around : List SpanContext} (h : t.entered = context :: around)
    (hvalid : context.isValid = true) :
    Tracer.parent propagator environ t = (some context, .internal) := by
  simp [Tracer.parent, Telemetry.current?, Telemetry.active?, h, Option.filter, hvalid]

namespace Layer

variable {own : Option Propagator}

section Distributed

variable {layer : Layer} (htracer : layer.tracer = .distributed true own) (environ : Environ)
  (t : Telemetry)

include htracer

theorem place_spanId :
    (layer.place own environ t).context.spanId = BitVec.ofNat 64 (t.spanIds + 1) := by
  obtain ⟨name, attributes, _, hplace⟩ := layer.started_distributed htracer environ t
  simp only [hplace, DistributedSpan.start_spanId]

theorem place_traceId : (layer.place own environ t).context.traceId =
    ((Tracer.parent (own.getD t.propagator) environ t).1.map (·.traceId)).getD
      (BitVec.ofNat 128 (t.traceIds + 1)) := by
  obtain ⟨name, attributes, _, hplace⟩ := layer.started_distributed htracer environ t
  simp only [hplace, DistributedSpan.start_traceId]

theorem place_isSampled : (layer.place own environ t).context.isSampled =
    (Tracer.parent (own.getD t.propagator) environ t).1.all (·.isSampled) := by
  obtain ⟨name, attributes, _, hplace⟩ := layer.started_distributed htracer environ t
  simp only [hplace, DistributedSpan.start_isSampled]

theorem entry_entered_of_distributed : (layer.entry environ t).entered =
    (layer.place own environ t).context :: t.entered := by
  obtain ⟨hcurrents, _⟩ := layer.begin_bare environ t
  rw [entry_entered, hcurrents, (layer.started_isAt htracer environ t).context?]
  rfl

theorem entry_spanIds : (layer.entry environ t).spanIds = t.spanIds + 1 := by
  obtain ⟨name, attributes, hstarted, _⟩ := layer.started_distributed htracer environ t
  have hentry : (layer.entry environ t).spanIds = (layer.started environ t).2.spanIds := by
    have hbare := layer.entry_bare environ t
    rw [(layer.begin_bare environ t).2] at hbare
    exact congrArg (·.spanIds) hbare
  simp only [hentry, hstarted, DistributedSpan.start_spanIds]

/-- Where no span is current, the span of a request is put where a request comes in. -/
theorem place_isEntry {t : Telemetry} (hcurrent : t.entered = []) :
    (layer.place own environ t).IsEntry ((own.getD t.propagator).extract? environ) := by
  have hparent := parent_of_entered_nil (own.getD t.propagator) environ hcurrent
  have htrace := place_traceId htracer environ t
  have hsampled := place_isSampled htracer environ t
  rw [hparent] at htrace hsampled
  refine ⟨?_, ?_, fun caller hcaller => ?_, hsampled⟩
  · simp only [place, hparent]
  · simp only [place, hparent]
  · rw [htrace, hcaller]
    rfl

theorem place_isValid {t : Telemetry} (hcurrent : t.entered = [])
    (htraceId : BitVec.ofNat 128 (t.traceIds + 1) ≠ 0)
    (hspanId : BitVec.ofNat 64 (t.spanIds + 1) ≠ 0) :
    (layer.place own environ t).context.isValid = true := by
  rw [SpanContext.isValid_iff, place_traceId htracer, place_spanId htracer,
    parent_of_entered_nil _ environ hcurrent]
  refine ⟨?_, hspanId⟩
  cases hupstream : (own.getD t.propagator).extract? environ with
  | none => exact htraceId
  | some caller =>
    exact (SpanContext.isValid_iff.mp (Propagator.isValid_of_extract? hupstream)).1

end Distributed

variable {layers : List Layer} (htracer : ∀ layer ∈ layers, layer.tracer = .distributed true own)
  (environ : Environ)

include htracer

theorem places_spanIds (t : Telemetry) :
    (places own layers environ t).map (·.context.spanId) =
      (List.range' (t.spanIds + 1) layers.length).map (BitVec.ofNat 64) := by
  induction layers generalizing t with
  | nil => rfl
  | cons layer layers ih =>
    obtain ⟨hlayer, hrest⟩ := List.forall_mem_cons.mp htracer
    rw [places, List.map_cons, ih hrest, place_spanId hlayer, entry_spanIds hlayer]
    rfl

/-- Within a span that is current, the spans of layers are parts one of the other. -/
theorem places_enclosed {outer : Place} {around : List SpanContext} {t : Telemetry}
    (hvalid : outer.context.isValid = true) (hcurrent : t.entered = outer.context :: around)
    (hids : ∀ id, t.spanIds < id → id ≤ t.spanIds + layers.length → BitVec.ofNat 64 id ≠ 0) :
    outer.Encloses (places own layers environ t) := by
  induction layers generalizing outer around t with
  | nil => trivial
  | cons layer layers ih =>
    obtain ⟨hlayer, hrest⟩ := List.forall_mem_cons.mp htracer
    have hparent := parent_of_entered_cons (own.getD t.propagator) environ hcurrent hvalid
    have htrace := place_traceId hlayer environ t
    have hsampled := place_isSampled hlayer environ t
    rw [hparent] at htrace hsampled
    refine ⟨⟨?_, ?_, htrace, hsampled⟩, ?_⟩
    · simp only [place, hparent]
    · simp only [place, hparent]
      rfl
    · refine ih hrest ?_ (entry_entered_of_distributed hlayer environ t) ?_
      · rw [SpanContext.isValid_iff] at hvalid ⊢
        rw [htrace, place_spanId hlayer]
        exact ⟨hvalid.1, hids _ (by omega) (by simp)⟩
      · rw [entry_spanIds hlayer]
        intro id hfirst hlast
        exact hids id (by omega) (by simp; omega)

/-- The spans of layers are the trace of their request, if no span is current around them. -/
theorem places_isTrace (hlayers : layers ≠ []) {t : Telemetry} (hcurrent : t.entered = [])
    (hids : t.HandsOut layers.length) :
    IsTrace ((own.getD t.propagator).extract? environ) (places own layers environ t) := by
  have hnodup := nodup_identifiers hids.span
  rw [← places_spanIds htracer environ t] at hnodup
  cases layers with
  | nil => exact absurd rfl hlayers
  | cons layer layers =>
    obtain ⟨hlayer, hrest⟩ := List.forall_mem_cons.mp htracer
    have hvalid := place_isValid hlayer environ hcurrent hids.trace
      (hids.span _ (by omega) (by simp))
    have henclosed : (layer.place own environ t).Encloses
        (places own layers environ (layer.entry environ t)) := by
      refine places_enclosed hrest environ hvalid
        (entry_entered_of_distributed hlayer environ t) ?_
      rw [entry_spanIds hlayer]
      intro id hfirst hlast
      exact hids.span id (by omega) (by simp; omega)
    have hshared : ∀ place ∈ places own (layer :: layers) environ t,
        place.context.traceId = (layer.place own environ t).context.traceId :=
      List.forall_mem_cons.mpr ⟨rfl, fun place hplace => (henclosed.shared place hplace).1⟩
    exact ⟨⟨_, _, rfl, place_isEntry hlayer environ hcurrent, henclosed⟩,
      fun place hplace other hother => (hshared place hplace).trans (hshared other hother).symm,
      List.pairwise_map.mp hnodup⟩

end Layer

end RequestTracing
