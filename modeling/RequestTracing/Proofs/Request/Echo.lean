import RequestTracing.Layer.Traced
import RequestTracing.Proofs.Program.Echo
import RequestTracing.Proofs.Request.Operations
/-!
Requests that keep to themselves. What is done with a request within a layer, and all that comes of
it, is the same under any number of its span, up to that number.
-/
namespace RequestTracing

/-- A request with its span under a number moved up by some amount. -/
def Request.renumber (shift : Nat) (request : Request) : Request :=
  { request with span := request.span.map (Span.renumber shift) }

/-- Whether the span of a request, if there is one, is never made current. -/
def Request.IsDetached (request : Request) : Prop :=
  ∀ span, request.span = some span → span.isAttached = false

/-- Whether all that comes of an update of a request, when its span is not made current, are the
request and some events, and these depend on nothing but the request and its surroundings, up to the
number of the span. -/
def Request.IsLocal (around : Surroundings) (update : Request → Telemetry → Request × Telemetry) :
    Prop :=
  ∀ request : Request, request.IsDetached → ∃ (next : Request) (events : List Event),
    next.IsDetached ∧ ∀ shift t, t.surroundings = around → update (request.renumber shift) t =
      (next.renumber shift, t.emitAll (events.map (Event.renumber shift)))

variable {around : Surroundings}

theorem Span.release_of_isAttached {span : Span} (h : span.isAttached = false) (t : Telemetry) :
    span.release t = t := by
  cases span <;> first | rfl | simp [isAttached] at h

namespace Request

variable {request : Request}

@[simp] theorem renumber_environ (shift : Nat) :
    (request.renumber shift).environ = request.environ := rfl

theorem renumber_span {span : Option Span} (h : request.span = span) (shift : Nat) :
    (request.renumber shift).span = span.map (Span.renumber shift) := by
  simp [renumber, h]

theorem isDetached_of_span {span : Span} (h : request.span = some span)
    (hspan : span.isAttached = false) : request.IsDetached := by
  intro other hother
  rw [h] at hother
  exact Option.some.inj hother ▸ hspan

theorem isDetached_of_none (h : request.span = none) : request.IsDetached := by
  intro span hspan
  rw [h] at hspan
  contradiction

theorem enter_renumber (hrequest : request.IsDetached) :
    ∃ events : List Event, ∀ shift t,
      (request.renumber shift).enter t = t.emitAll (events.map (Event.renumber shift)) := by
  unfold enter
  cases hspan : request.span with
  | none => exact ⟨[], fun shift t => by rw [renumber_span hspan]; rfl⟩
  | some span =>
    cases span with
    | observed number kind =>
      exact ⟨[.enterSpan number], fun shift t => by rw [renumber_span hspan]; rfl⟩
    | logged span => exact ⟨[], fun shift t => by rw [renumber_span hspan]; rfl⟩
    | distributed span => simpa [Span.isAttached] using hrequest _ hspan

theorem leave_renumber (hrequest : request.IsDetached) (shift : Nat) (t : Telemetry) :
    (request.renumber shift).leave t = t := by
  unfold leave
  cases hspan : request.span with
  | none => rw [renumber_span hspan]; rfl
  | some span =>
    rw [renumber_span hspan]
    simp [Span.leave, hrequest span hspan]

theorem isRecording_renumber (shift : Nat) {t other : Telemetry}
    (h : t.surroundings = other.surroundings) :
    (request.renumber shift).isRecording t = request.isRecording other := by
  unfold isRecording
  cases hspan : request.span with
  | none => rw [renumber_span hspan]; rfl
  | some span =>
    rw [renumber_span hspan]
    exact span.isRecording_renumber shift h

theorem endSpan_eq {span : Span} (h : request.span = some span) (status : Option SpanStatus)
    (t : Telemetry) :
    request.endSpan status t =
      let offered := status.elim (span, t) fun status => span.setStatus status t
      let ended := offered.1.finish offered.2
      ({ request with span := none }, ended.1.release ended.2) := by
  cases status <;> simp [endSpan, h]

theorem isLocal_endSpan (status : Option SpanStatus) :
    IsLocal around fun request => request.endSpan status := by
  intro request hrequest
  cases hspan : request.span with
  | none =>
    refine ⟨request, [], hrequest, fun shift t _ => ?_⟩
    simp [endSpan, renumber_span hspan, Telemetry.emitAll]
  | some span =>
    have hoffer : Span.IsLocal around fun span t =>
        status.elim (span, t) fun status => span.setStatus status t := by
      cases status with
      | none => exact Span.isLocal_keep
      | some status => exact Span.isLocal_act (.setStatus status) (by simp)
    obtain ⟨last, events, hlast, hended⟩ :=
      (hoffer.comp Span.isLocal_finish) span (hrequest span hspan)
    refine ⟨{ request with span := none }, events, isDetached_of_none rfl, fun shift t ht => ?_⟩
    have hreleased : (last.renumber shift).isAttached = false := by simpa using hlast
    simp only [endSpan_eq (renumber_span hspan shift), hended shift t ht,
      Span.release_of_isAttached hreleased]
    rfl

end Request

namespace Layer

variable {layer : Layer}

theorem isLocal_emit {event : Event} (h : ∀ shift, event.renumber shift = event) :
    Span.IsLocal around fun span t => (span, t.emit event) := by
  refine fun span hspan => ⟨span, [event], hspan, fun shift t _ => ?_⟩
  rw [List.map_singleton, h]
  rfl

section Hooks

variable (hhooks : ∀ on, ¬ layer.HooksUse (.setRecording on))

include hhooks

theorem isLocal_annotateSpan (environ : Environ) (start : ResponseStart) :
    Span.IsLocal around (layer.annotateSpan environ start) :=
  layer.annotateSpan_of_isClosed Span.isClosed_isLocal (fun _ _ _ => nofun) (fun _ _ => nofun)
    (isLocal_emit fun _ => rfl) environ start
    fun _ hused on heq => hhooks on ⟨environ, .inr ⟨start, heq ▸ hused⟩⟩

theorem isLocal_annotate (start : ResponseStart) :
    Request.IsLocal around (layer.annotate start) := by
  intro request hrequest
  cases hspan : request.span with
  | none =>
    refine ⟨request.label start.status, [], Request.isDetached_of_none hspan, fun shift t _ => ?_⟩
    rw [layer.annotate_of_none (Request.renumber_span hspan shift)]
    rfl
  | some span =>
    obtain ⟨next, events, hnext, hannotate⟩ :=
      isLocal_annotateSpan hhooks request.environ start span (hrequest span hspan)
    refine ⟨{ request.label start.status with span := some next }, events,
      Request.isDetached_of_span rfl hnext, fun shift t ht => ?_⟩
    rw [layer.annotate_of_some (Request.renumber_span hspan shift), Request.renumber_environ,
      hannotate shift t ht]
    rfl

end Hooks

theorem isLocal_settle (status : Option SpanStatus) :
    Request.IsLocal around (layer.settle status) := by
  intro request hrequest
  have hlocal : Request.IsLocal around fun request => request.endSpan status :=
    Request.isLocal_endSpan status
  obtain ⟨next, events, hnext, hended⟩ := hlocal request hrequest
  let measures :=
    [layer.meter.duration none next.durationLabels, layer.meter.active (-1) next.activeLabels]
  have hmeasures (shift : Nat) : measures.map (Event.renumber shift) = measures := by
    simp [measures, Event.renumber_of_isMetric]
  refine ⟨next, events ++ measures, hnext, fun shift t ht => ?_⟩
  rw [List.map_append, hmeasures, ← Telemetry.emitAll_emitAll]
  simp only [settle, hended shift t ht]
  rfl

theorem isLocal_fail (failure : Failure) : Request.IsLocal around (layer.fail failure) := by
  intro request hrequest
  have hlocal : Request.IsLocal around (layer.settle (some (.error failure))) := isLocal_settle _
  obtain ⟨next, events, hnext, hsettle⟩ := hlocal request hrequest
  refine ⟨next, .log (layer.failureRecord request.environ failure) :: events, hnext,
    fun shift t ht => ?_⟩
  exact hsettle shift (t.emit (.log (layer.failureRecord request.environ failure))) ht

end Layer

/-- Whether a family of results differs only in the number of the span of a request. -/
def Request.Numbered {α : Type} (results : Nat → α × Request) : Prop :=
  ∃ (a : α) (request : Request), request.IsDetached ∧
    results = fun shift => (a, request.renumber shift)

theorem Request.IsLocal.act {update : Request → Telemetry → Request × Telemetry}
    (h : IsLocal around update) {request : Request} (hrequest : request.IsDetached) :
    Program.Echo around
      (fun results => ∃ last : Request, last.IsDetached ∧
        results = fun shift => last.renumber shift)
      fun shift => Program.act (update (request.renumber shift)) := by
  obtain ⟨last, events, hlast, hupdate⟩ := h request hrequest
  exact .act ⟨last, hlast, rfl⟩ hupdate

def Traced.renumber {σ : Type} (shift : Nat) (body : Traced σ) : Traced σ :=
  { body with request := body.request.renumber shift }

/-- Whether a family of results differs only in the number of the span of a traced request. -/
def Traced.Numbered {α σ : Type} (results : Nat → α × Traced σ) : Prop :=
  ∃ (a : α) (body : Traced σ), body.request.IsDetached ∧
    results = fun shift => (a, body.renumber shift)

namespace Layer

variable {layer : Layer} {α σ : Type} (hhooks : ∀ on, ¬ layer.HooksUse (.setRecording on))

open Program

include hhooks

theorem instrument_echo {p : Program α} (hp : p.IsSecluded) {request : Request}
    (hrequest : request.IsDetached) :
    Echo around Request.Numbered fun shift => layer.instrument p (request.renumber shift) := by
  induction p generalizing request with
  | done a => exact .done ⟨a, request, hrequest, rfl⟩
  | respond start next ih =>
    have hlocal : Request.IsLocal around (layer.annotate start) := isLocal_annotate hhooks start
    obtain ⟨noted, events, hnoted, hannotate⟩ := hlocal request hrequest
    intro server
    obtain ⟨results, last, more, hresults, hrun⟩ :=
      ih (server.receive start).1 (hp _) hnoted (server.receive start).2
    refine ⟨results, last, events ++ .server server.request start :: more, hresults,
      fun shift t ht => ?_⟩
    let told : Event := .server server.request start
    have hbetween : ((t.emitAll (events.map (Event.renumber shift))).emit told).surroundings =
        around := by simpa using ht
    simp only [instrument, run_step, run_respond, hannotate shift t ht]
    rw [List.map_append, ← Telemetry.emitAll_emitAll]
    exact hrun shift _ hbetween
  | step change next ih =>
    -- Within the surroundings every state leads to the same continuation, so any one will do.
    obtain ⟨⟨events, hown, hchange⟩, hnext, hsecluded⟩ := hp (.within around)
    intro server
    obtain ⟨results, last, more, hresults, hrun⟩ := ih _ hsecluded hrequest server
    refine ⟨results, last, events ++ more, hresults, fun shift t ht => ?_⟩
    have hbetween : (t.emitAll events).surroundings = around := by simpa using ht
    have hsame : next t = next (.within around) := hnext t ht
    rw [List.map_append, Event.map_renumber_of_isReport shift hown, ← Telemetry.emitAll_emitAll,
      ← hrun shift _ hbetween, ← hsame, ← hchange t ht]
    rfl

theorem within_echo {p : Program α} (hp : p.IsSecluded) {request : Request}
    (hrequest : request.IsDetached) :
    Echo around Request.Numbered fun shift => layer.within p (request.renumber shift) := by
  obtain ⟨events, henter⟩ := Request.enter_renumber hrequest
  apply (Echo.modify events fun shift t _ => henter shift t).bind
  intro _ _
  apply (instrument_echo hhooks hp hrequest).bind
  rintro _ ⟨a, last, hlast, rfl⟩
  have hleave : Echo around (fun _ => True) fun shift =>
      Program.modify (request.renumber shift).leave :=
    Echo.modify [] fun shift t _ => Request.leave_renumber hrequest shift t
  apply hleave.bind
  exact fun _ _ => .done ⟨a, last, hlast, rfl⟩

variable {app : Application σ} (happ : app.IsSecluded)

include happ

theorem finish_echo (status : Option SpanStatus) {body : Traced σ}
    (hbody : body.request.IsDetached) :
    Echo around
      (fun results => ∃ last : Traced σ, last.request.IsDetached ∧
        results = fun shift => last.renumber shift)
      fun shift => layer.finish app status (body.renumber shift) := by
  have hopen (shift : Nat) : (body.renumber shift).isOpen = body.isOpen := rfl
  cases hheld : body.isOpen with
  | false =>
    simp only [finish, hopen, hheld, Bool.false_eq_true, if_false]
    exact .done ⟨body, hbody, rfl⟩
  | true =>
    simp only [finish, hopen, hheld, if_true]
    have hrelease : ((app.close body.inner).bind app.drop).IsSecluded :=
      (happ.close body.inner).bind fun closed => happ.drop closed
    apply (instrument_echo hhooks hrelease hbody).bind
    rintro _ ⟨inner, request, hrequest, rfl⟩
    apply ((isLocal_settle status).act hrequest).bind
    rintro _ ⟨last, hlast, rfl⟩
    exact .done ⟨⟨last, inner, false⟩, hlast, rfl⟩

theorem next_echo {body : Traced σ} (hbody : body.request.IsDetached) :
    Echo around Traced.Numbered fun shift => layer.next app (body.renumber shift) := by
  have hopen (shift : Nat) : (body.renumber shift).isOpen = body.isOpen := rfl
  cases hheld : body.isOpen with
  | false =>
    simp only [next, hopen, hheld, Bool.false_eq_true, if_false]
    exact .done ⟨none, body, hbody, rfl⟩
  | true =>
    simp only [next, hopen, hheld, if_true]
    apply (within_echo hhooks (happ.next body.inner) hbody).bind
    rintro _ ⟨⟨item, inner⟩, request, hrequest, rfl⟩
    have hlast (item : Item) (status : Option SpanStatus) :
        Echo around Traced.Numbered fun shift =>
          (layer.finish app status (Traced.renumber shift ⟨request, inner, true⟩)).bind fun body =>
            .done (item, body) := by
      apply (finish_echo hhooks happ status hrequest).bind
      rintro _ ⟨last, hlast, rfl⟩
      exact .done ⟨item, last, hlast, rfl⟩
    rcases item with _ | failure | chunk
    · exact hlast none none
    · have hread : Echo around (fun results => results = fun _ =>
          failedStatus failure request (.within around)) fun shift =>
          Program.read (failedStatus failure (request.renumber shift)) := by
        refine Echo.read rfl fun shift t ht => ?_
        have hrecording : (request.renumber shift).isRecording t =
            request.isRecording (.within around) := Request.isRecording_renumber shift ht
        simp only [failedStatus, hrecording]
      apply hread.bind
      rintro _ rfl
      exact hlast _ _
    · exact .done ⟨some (.ok chunk), ⟨request, inner, true⟩, hrequest, rfl⟩

/-- Every use of a request comes to the same under any number of its span, up to that number. -/
theorem use_echo (use : Use) {body : Traced σ} (hbody : body.request.IsDetached) :
    Echo around Traced.Numbered fun shift =>
      (layer.wrap app).use use (body.renumber shift) := by
  have hrelease : Echo around Traced.Numbered fun shift =>
      (layer.finish app none (body.renumber shift)).bind fun body =>
        .done (Outcome.nothing, body) := by
    apply (finish_echo hhooks happ none hbody).bind
    rintro _ ⟨last, hlast, rfl⟩
    exact .done ⟨.nothing, last, hlast, rfl⟩
  cases use with
  | next =>
    apply (next_echo hhooks happ hbody).bind
    rintro _ ⟨item, last, hlast, rfl⟩
    exact .done ⟨.item item, last, hlast, rfl⟩
  | close => exact hrelease
  | drop => exact hrelease
  | respond start =>
    have hrespond : Echo around Traced.Numbered fun shift =>
        (layer.wrap app).respond start (body.renumber shift) := by
      apply (instrument_echo hhooks (happ.respond start body.inner) hbody).bind
      rintro _ ⟨⟨answer, inner⟩, request, hrequest, rfl⟩
      exact .done ⟨answer, ⟨request, inner, body.isOpen⟩, hrequest, rfl⟩
    apply hrespond.bind
    rintro _ ⟨answer, last, hlast, rfl⟩
    exact .done ⟨.answer answer, last, hlast, rfl⟩

end Layer

namespace Tracer

/-- How many numbers a tracer uses up for each span. -/
def width : Tracer → Nat
  | .observer _ => 1
  | _ => 0

/-- The state after a tracer has given a number to a span, if it does so. -/
def count (tracer : Tracer) (t : Telemetry) : Telemetry :=
  { t with observedSpans := t.observedSpans + tracer.width }

@[simp] theorem surroundings_count (tracer : Tracer) (t : Telemetry) :
    (tracer.count t).surroundings = t.surroundings := rfl

/-- A span that is never made current is started in the same way under any number. -/
theorem start_echo {tracer : Tracer}
    (htracer : ∀ exporting own, tracer ≠ .distributed exporting own) (name : String)
    (attributes : Attributes) (environ : Environ) (number : Nat) :
    ∃ (span : Span) (events : List Event), span.isAttached = false ∧
      ∀ shift t, t.observedSpans = number + shift → tracer.start name attributes environ t =
        (span.renumber shift, (tracer.count t).emitAll (events.map (Event.renumber shift))) := by
  cases tracer with
  | observer kind =>
    refine ⟨.observed number kind,
      [.startSpan number name attributes (Carrier.listing environ)], rfl, fun shift t ht => ?_⟩
    simp only [start, count, ht]
    rfl
  | log =>
    exact ⟨.logged { name, attributes }, [.log (LoggedSpan.startRecord name)], rfl,
      fun _ _ _ => rfl⟩
  | distributed exporting own => exact absurd rfl (htracer exporting own)

end Tracer

namespace Layer

/-- What is left of handling a request once its application has answered. -/
def answered {σ : Type} (layer : Layer) : (Option Failure × σ) × Request →
    Program (Option Failure × Traced σ)
  | ((none, inner), request) => return (none, { request, inner, isOpen := true })
  | ((some failure, inner), request) => do
    let request ← Program.act (layer.fail failure request)
    return (some failure, { request, inner, isOpen := false })

theorem call_eq {σ : Type} (layer : Layer) (app : Application σ) (environ : Environ) :
    layer.call app environ = (Program.act (layer.begin environ)).bind fun request =>
      (layer.within (app.call environ) request).bind layer.answered := by
  unfold call
  simp only [Program.bind_eq]
  congr 1
  funext request
  congr 1
  funext ⟨⟨failure?, inner⟩, request⟩
  cases failure? <;> rfl

variable {layer : Layer} {σ : Type}
  (htracer : ∀ exporting own, layer.tracer ≠ .distributed exporting own)
  (hhooks : ∀ on, ¬ layer.HooksUse (.setRecording on))

include htracer hhooks

/-- A request is taken up in the same way whatever the number of its span. -/
theorem begin_echo (around : Surroundings) (environ : Environ) (number : Nat) :
    ∃ (request : Request) (events : List Event), request.IsDetached ∧
      ∀ shift t, t.surroundings = around → t.observedSpans = number + shift →
        layer.begin environ t = (request.renumber shift,
          (layer.tracer.count t).emitAll (events.map (Event.renumber shift))) := by
  obtain ⟨span, events, hspan, hstart⟩ := Tracer.start_echo htracer
    (Http.spanName environ layer.capture.allMethods)
    (Http.requestAttributes environ layer.capture.allMethods) environ number
  have hlocal := layer.ready_of_isClosed (@Span.isClosed_isLocal around) (fun _ _ _ => nofun)
    (isLocal_emit fun _ => rfl) environ
    fun _ hused on heq => hhooks on ⟨environ, .inl (heq ▸ hused)⟩
  obtain ⟨last, more, hlast, hready⟩ := hlocal span hspan
  let counted := layer.meter.active 1 (layer.activeLabels environ)
  have hcounted (shift : Nat) : counted.renumber shift = counted :=
    Event.renumber_of_isMetric shift (layer.meter.isMetric_active _ _)
  refine ⟨⟨environ, some last, layer.activeLabels environ, Http.durationLabels
    (Http.requestAttributes environ layer.capture.allMethods)⟩, events ++ (more ++ [counted]),
    Request.isDetached_of_span rfl hlast, fun shift t ht hnumber => ?_⟩
  have hbetween : ((layer.tracer.count t).emitAll
      (events.map (Event.renumber shift))).surroundings = around := by simpa using ht
  have hreadied : layer.readied environ t = (last.renumber shift,
      ((layer.tracer.count t).emitAll (events.map (Event.renumber shift))).emitAll
        (more.map (Event.renumber shift))) := by
    rw [← hready shift _ hbetween]
    unfold readied started
    rw [hstart shift t hnumber]
  rw [begin_eq, hreadied, List.map_append, List.map_append, List.map_singleton, hcounted,
    ← Telemetry.emitAll_emitAll, ← Telemetry.emitAll_emitAll]
  simp only [Request.renumber, Option.map_some, counted, Telemetry.emitAll_singleton]

/-- A request is handled in the same way whatever the number of its span. -/
theorem call_echo {app : Application σ} (happ : app.IsSecluded) (around : Surroundings)
    (environ : Environ) (number : Nat) (server : Server) :
    ∃ (failure : Option Failure) (body : Traced σ) (last : Server) (events : List Event),
      body.request.IsDetached ∧
      ∀ shift t, t.surroundings = around → t.observedSpans = number + shift →
        ((layer.wrap app).call environ).run server t = ((failure, body.renumber shift), last,
          (layer.tracer.count t).emitAll (events.map (Event.renumber shift))) := by
  obtain ⟨request, events, hrequest, hbegin⟩ := begin_echo htracer hhooks around environ number
  have hrest : Program.Echo around Traced.Numbered fun shift =>
      (layer.within (app.call environ) (request.renumber shift)).bind layer.answered := by
    apply (within_echo hhooks (happ.call environ) hrequest).bind
    rintro _ ⟨⟨failure?, inner⟩, request, hrequest, rfl⟩
    cases failure? with
    | none => exact .done ⟨none, ⟨request, inner, true⟩, hrequest, rfl⟩
    | some failure =>
      apply ((isLocal_fail failure).act hrequest).bind
      rintro _ ⟨last, hlast, rfl⟩
      exact .done ⟨some failure, ⟨last, inner, false⟩, hlast, rfl⟩
  obtain ⟨_, last, more, ⟨failure, body, hbody, rfl⟩, hrun⟩ := hrest server
  refine ⟨failure, body, last, events ++ more, hbody, fun shift t ht hnumber => ?_⟩
  have hbetween : ((layer.tracer.count t).emitAll
      (events.map (Event.renumber shift))).surroundings = around := by simpa using ht
  have hcalled : ((layer.wrap app).call environ).run server t =
      ((failure, body.renumber shift), last, ((layer.tracer.count t).emitAll
        (events.map (Event.renumber shift))).emitAll (more.map (Event.renumber shift))) := by
    rw [← hrun shift _ hbetween]
    simp only [wrap, call_eq, Program.run_bind, Program.run_act, hbegin shift t ht hnumber]
  rw [hcalled, List.map_append, Telemetry.emitAll_emitAll]

end Layer

end RequestTracing
