import RequestTracing.Proofs.Application.Tally
import RequestTracing.Proofs.Http.Variables
import RequestTracing.Proofs.Request.Operations
/-!
What layers measure of a request depends on the variables that its attributes are read from and on
the status lines of its response. Neither the trace that the request belongs to nor anything else
about its spans has a part in it.
-/
namespace RequestTracing

open Program

namespace Request

structure MeasuresAs (request other : Request) : Prop where
  active : request.activeLabels = other.activeLabels
  duration : request.durationLabels = other.durationLabels

theorem MeasuresAs.congr {request other last otherLast : Request} (h : request.MeasuresAs other)
    (hlast : last.MeasuresAs request) (hotherLast : otherLast.MeasuresAs other) :
    last.MeasuresAs otherLast :=
  ⟨hlast.active.trans (h.active.trans hotherLast.active.symm),
    hlast.duration.trans (h.duration.trans hotherLast.duration.symm)⟩

@[simp] theorem enter_metrics (request : Request) (t : Telemetry) :
    (request.enter t).metrics = t.metrics := by
  obtain ⟨new, hnew, henter⟩ := request.enter_events t
  refine Telemetry.metrics_eq hnew fun event he => ?_
  obtain ⟨number, rfl⟩ := henter event he
  rfl

@[simp] theorem leave_metrics (request : Request) (t : Telemetry) :
    (request.leave t).metrics = t.metrics := by
  rw [Telemetry.metrics, leave_events]
  rfl

@[simp] theorem endSpan_metrics (request : Request) (status : Option SpanStatus) (t : Telemetry) :
    (request.endSpan status t).2.metrics = t.metrics := by
  cases hspan : request.span with
  | none => simp [endSpan, hspan]
  | some span =>
    obtain ⟨_, updates, ends, _, hevents, _, hupdates, hends, _⟩ := endSpan_events hspan status t
    rw [List.append_assoc] at hevents
    refine Telemetry.metrics_eq hevents fun event he => ?_
    rcases List.mem_append.mp he with he | he
    · exact Event.isMetric_eq_false_of_isSpanUse (hupdates event he).1
    · exact Event.isMetric_eq_false_of_isSpanUse (Event.isSpanUse_of_isSpanEnd (hends event he))

theorem endSpan_measuresAs (request : Request) (status : Option SpanStatus) (t : Telemetry) :
    (request.endSpan status t).1.MeasuresAs request := by
  cases hspan : request.span with
  | none =>
    simp only [endSpan, hspan]
    exact ⟨rfl, rfl⟩
  | some span =>
    rw [(endSpan_events hspan status t).1]
    exact ⟨rfl, rfl⟩

end Request

namespace Layer

variable (layer : Layer)

@[simp] theorem annotate_metrics (start : ResponseStart) (request : Request) (t : Telemetry) :
    (layer.annotate start request t).2.metrics = t.metrics := by
  cases hspan : request.span with
  | none => rw [layer.annotate_of_none hspan]
  | some span =>
    rw [layer.annotate_of_some hspan]
    obtain ⟨new, hnew, huse⟩ := (layer.annotateSpan_reaches request.environ start span t).events
    exact Telemetry.metrics_eq hnew fun event he =>
      Event.isMetric_eq_false_of_isSpanUse (huse event he).1

/-- The start of a response gives requests with the same labels the same labels, if it is the same
status line. -/
theorem annotate_measuresAs {start next : ResponseStart} (hstatus : start.status = next.status)
    {request other : Request} (h : request.MeasuresAs other) (t u : Telemetry) :
    (layer.annotate start request t).1.MeasuresAs (layer.annotate next other u).1 := by
  have hlabel (start : ResponseStart) (request : Request) (t : Telemetry) :
      (layer.annotate start request t).1.MeasuresAs (request.label start.status) := by
    cases hspan : request.span with
    | none =>
      rw [layer.annotate_of_none hspan]
      exact ⟨rfl, rfl⟩
    | some span =>
      rw [layer.annotate_of_some hspan]
      exact ⟨rfl, rfl⟩
  have hlabels : (request.label start.status).MeasuresAs (other.label next.status) :=
    ⟨h.active, by simp only [Request.label, h.duration, hstatus]⟩
  exact hlabels.congr (hlabel start request t) (hlabel next other u)

theorem settle_metrics (status : Option SpanStatus) (request : Request) (t : Telemetry) :
    (layer.settle status request t).2.metrics = t.metrics ++
      [layer.meter.duration none request.durationLabels,
        layer.meter.active (-1) request.activeLabels] := by
  have hlabels := request.endSpan_measuresAs status t
  simp [settle, Telemetry.emitAll, hlabels.active, hlabels.duration]

theorem settle_measuresAs (status : Option SpanStatus) (request : Request) (t : Telemetry) :
    (layer.settle status request t).1.MeasuresAs request :=
  request.endSpan_measuresAs status t

theorem begin_metrics (environ : Environ) (t : Telemetry) :
    (layer.begin environ t).2.metrics =
      t.metrics ++ [layer.meter.active 1 (layer.activeLabels environ)] := by
  obtain ⟨new, hnew, hquiet⟩ := layer.readied_events environ t
  have hsame := Telemetry.metrics_eq hnew fun event he => (hquiet event he).1
  rw [begin_eq]
  simp [hsame]

end Layer

namespace Layer

variable {σ α β : Type} (layer : Layer)

theorem instrument_tallies {R : α → β → Prop} {p : Program α} {q : Program β} (h : Tallies R p q)
    {request other : Request} (hrequest : request.MeasuresAs other) :
    Tallies (fun a b => R a.1 b.1 ∧ a.2.MeasuresAs b.2) (layer.instrument p request)
      (layer.instrument q other) := by
  induction h generalizing request other with
  | done h => exact .done ⟨h, hrequest⟩
  | respond status _ ih =>
    exact .step (measureAlike_of_eq (layer.annotate_metrics _ _) (layer.annotate_metrics _ _))
      fun t u => .respond status fun answer =>
        ih answer (layer.annotate_measuresAs status hrequest t u)
  | step measures _ ih => exact .step measures fun t u => ih t u hrequest

theorem within_tallies {R : α → β → Prop} {p : Program α} {q : Program β} (h : Tallies R p q)
    {request other : Request} (hrequest : request.MeasuresAs other) :
    Tallies (fun a b => R a.1 b.1 ∧ a.2.MeasuresAs b.2) (layer.within p request)
      (layer.within q other) := by
  refine .step (measureAlike_of_eq request.enter_metrics other.enter_metrics) fun _ _ => ?_
  refine (layer.instrument_tallies h hrequest).bind fun a b hab => ?_
  exact .step (measureAlike_of_eq request.leave_metrics other.leave_metrics) fun _ _ => .done hab

theorem settle_measureAlike {request other : Request} (h : request.MeasuresAs other)
    (status outcome : Option SpanStatus) :
    MeasureAlike (fun t => (layer.settle status request t).2)
      (fun t => (layer.settle outcome other t).2) := by
  intro t u
  refine ⟨_, layer.settle_metrics status request t, ?_⟩
  rw [layer.settle_metrics, h.active, h.duration]

/-- Whether two requests within a layer are measured alike from now on. -/
def TallyAlike (R : σ → σ → Prop) (first second : Traced σ) : Prop :=
  R first.inner second.inner ∧ first.request.MeasuresAs second.request ∧
    first.isOpen = second.isOpen

theorem finish_tallies {app : Application σ} {environ other : Environ} {R : σ → σ → Prop}
    (h : app.Tallies environ other R) (status outcome : Option SpanStatus)
    {first second : Traced σ} (hbody : TallyAlike R first second) :
    Tallies (TallyAlike R) (layer.finish app status first) (layer.finish app outcome second) := by
  obtain ⟨request, inner, isOpen⟩ := first
  obtain ⟨request', inner', _⟩ := second
  obtain ⟨hinner, hrequest, rfl⟩ := hbody
  cases isOpen with
  | false => exact .done ⟨hinner, hrequest, rfl⟩
  | true =>
    have hrelease := (h.close hinner).bind fun _ _ hclosed => h.drop hclosed
    refine (layer.instrument_tallies hrelease hrequest).bind ?_
    rintro ⟨inner, request⟩ ⟨inner', request'⟩ ⟨hreleased, hlast⟩
    refine .step (layer.settle_measureAlike hlast status outcome) fun t u => .done ?_
    exact ⟨hreleased, hlast.congr (layer.settle_measuresAs status request t)
      (layer.settle_measuresAs outcome request' u), rfl⟩

theorem fail_measureAlike {request other : Request} (h : request.MeasuresAs other)
    (failure : Failure) :
    MeasureAlike (fun t => (layer.fail failure request t).2)
      (fun t => (layer.fail failure other t).2) := by
  intro t u
  have hsettled := layer.settle_measureAlike h (some (.error failure)) (some (.error failure))
    (t.emit (.log (layer.failureRecord request.environ failure)))
    (u.emit (.log (layer.failureRecord other.environ failure)))
  simpa [fail, Event.isMetric] using hsettled

theorem fail_measuresAs (failure : Failure) (request : Request) (t : Telemetry) :
    (layer.fail failure request t).1.MeasuresAs request :=
  layer.settle_measuresAs _ request _

variable {environ other : Environ}
  (hvariables : ∀ key ∈ Http.readVariables, environ.get? key = other.get? key)

include hvariables

/-- The labels of a request depend on nothing but the variables that its attributes are read
from. -/
theorem begin_tallies : MeasureAlike (fun t => (layer.begin environ t).2)
      (fun t => (layer.begin other t).2) ∧
    ∀ t u, (layer.begin environ t).1.MeasuresAs (layer.begin other u).1 := by
  have hattributes := Http.requestAttributes_congr hvariables layer.capture.allMethods
  have hactive : layer.activeLabels environ = layer.activeLabels other := by
    rw [activeLabels, activeLabels, hattributes]
  refine ⟨fun t u => ⟨_, layer.begin_metrics environ t, ?_⟩, fun t u => ?_⟩
  · rw [begin_metrics, hactive]
  · constructor
    · simp only [begin_eq, hactive]
    · simp only [begin_eq, hattributes]

/-- What a layer measures depends on nothing else than what is measured within it and the variables
that the attributes of a request are read from. -/
theorem wrap_tallies {app : Application σ} {R : σ → σ → Prop} (h : app.Tallies environ other R) :
    (layer.wrap app).Tallies environ other (TallyAlike R) where
  call := by
    obtain ⟨hbegin, hrequest⟩ := layer.begin_tallies hvariables
    refine .step hbegin fun t u => (layer.within_tallies h.call (hrequest t u)).bind ?_
    rintro ⟨⟨failure, inner⟩, request⟩ ⟨⟨_, inner'⟩, request'⟩ ⟨⟨rfl, hinner⟩, hlast⟩
    cases failure with
    | none => exact .done ⟨rfl, hinner, hlast, rfl⟩
    | some failure =>
      refine .step (layer.fail_measureAlike hlast failure) fun t u => .done ?_
      exact ⟨rfl, hinner, hlast.congr (layer.fail_measuresAs failure request t)
        (layer.fail_measuresAs failure request' u), rfl⟩
  next := by
    rintro ⟨request, inner, isOpen⟩ ⟨request', inner', _⟩ ⟨hinner, hrequest, rfl⟩
    cases isOpen with
    | false => exact .done ⟨rfl, hinner, hrequest, rfl⟩
    | true =>
      refine (layer.within_tallies (h.next hinner) hrequest).bind ?_
      rintro ⟨⟨item, inner⟩, request⟩ ⟨⟨_, inner'⟩, request'⟩ ⟨⟨rfl, hasked⟩, hlast⟩
      have hbody : TallyAlike R (⟨request, inner, true⟩ : Traced σ) ⟨request', inner', true⟩ :=
        ⟨hasked, hlast, rfl⟩
      rcases item with _ | failure | chunk
      · exact (layer.finish_tallies h none none hbody).bind fun _ _ hab => .done ⟨rfl, hab⟩
      · refine .step (measureAlike_of_eq (fun _ => rfl) fun _ => rfl) fun t u => ?_
        exact (layer.finish_tallies h _ _ hbody).bind fun _ _ hab => .done ⟨rfl, hab⟩
      · exact .done ⟨rfl, hasked, hlast, rfl⟩
  close hbody := layer.finish_tallies h none none hbody
  drop hbody := layer.finish_tallies h none none hbody
  respond := by
    rintro start ⟨request, inner, isOpen⟩ ⟨request', inner', _⟩ ⟨hinner, hrequest, rfl⟩
    refine (layer.instrument_tallies (h.respond start hinner) hrequest).bind ?_
    rintro ⟨⟨answer, after⟩, last⟩ ⟨⟨_, after'⟩, last'⟩ ⟨⟨rfl, hafter⟩, hlast⟩
    exact .done ⟨rfl, hafter, hlast, rfl⟩

theorem wrapAll_tallies (layers : List Layer) {app : Application σ} {R : σ → σ → Prop}
    (h : app.Tallies environ other R) :
    ∃ S, (wrapAll layers app).Tallies environ other S := by
  induction layers with
  | nil => exact ⟨R, h⟩
  | cons layer layers ih =>
    obtain ⟨S, hS⟩ := ih
    exact ⟨_, layer.wrap_tallies hvariables hS⟩

end Layer

end RequestTracing
