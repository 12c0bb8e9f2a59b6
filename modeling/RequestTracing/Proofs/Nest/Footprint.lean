import RequestTracing.Proofs.Program.Leads
import RequestTracing.Proofs.Request.Operations
/-!
What a layer does to a view of the state that all requests share. It is enough to know this for the
single operations on a request; whatever an application leads to then tells what it leads to within
the layer.
-/
namespace RequestTracing

open Program

namespace Layer

variable {ν σ α : Type}

/-- What a layer does to a view of the shared state, as long as a request is of some kind: the start
of a response does not touch the view, and the span of the request is entered, left and settled. -/
structure Footprint (layer : Layer) (view : Telemetry → ν) (I : Request → Prop)
    (enter leave : ν → ν) (settled : ν → ν → Prop) : Prop where
  emit : ∀ (t : Telemetry) event, view (t.emit event) = view t
  annotate : ∀ {request}, I request → ∀ start t,
    I (layer.annotate start request t).1 ∧ view (layer.annotate start request t).2 = view t
  enter : ∀ {request}, I request → ∀ t, view (request.enter t) = enter (view t)
  leave : ∀ {request}, I request → ∀ t, view (request.leave t) = leave (view t)
  settle : ∀ {request}, I request → ∀ status t,
    settled (view t) (view (layer.settle status request t).2)

/-- Once a request has ended, nothing comes of its body, and only a way to start the response that
was kept is left. -/
theorem wrap_use_of_closed (layer : Layer) {view : Telemetry → ν} {app : Application σ}
    {body : Traced σ} (hclosed : body.isOpen = false) {use : Use} {v : ν}
    {Q : ν → Outcome × Traced σ → Prop} (hstay : ∀ outcome, Q v (outcome, body))
    (hrespond : ∀ start, use = .respond start →
      ((layer.wrap app).use (.respond start) body).Leads view Q v) :
    ((layer.wrap app).use use body).Leads view Q v := by
  have hdone : (layer.wrap app).use .next body = .done (.item none, body) ∧
      (layer.wrap app).use .close body = .done (.nothing, body) ∧
      (layer.wrap app).use .drop body = .done (.nothing, body) := by
    simp [Application.use, wrap, next, finish, hclosed]
  obtain ⟨hnext, hclose, hdrop⟩ := hdone
  cases use with
  | next => exact hnext ▸ hstay (.item none)
  | close => exact hclose ▸ hstay .nothing
  | drop => exact hdrop ▸ hstay .nothing
  | respond start => exact hrespond start rfl

namespace Footprint

variable {layer : Layer} {view : Telemetry → ν} {I : Request → Prop} {enter leave : ν → ν}
  {settled : ν → ν → Prop} (h : layer.Footprint view I enter leave settled)

include h

theorem instrument_leads {p : Program α} {Q : ν → α → Prop} {v : ν} (hp : p.Leads view Q v)
    {request : Request} (hrequest : I request) :
    (layer.instrument p request).Leads view (fun w result => Q w result.1 ∧ I result.2) v := by
  induction p generalizing v request with
  | done a => exact ⟨hp, hrequest⟩
  | respond start next ih =>
    intro t ht answer
    obtain ⟨hannotated, hsame⟩ := h.annotate hrequest start t
    rw [hsame, ht]
    exact ih answer (hp answer) hannotated
  | step change next ih => exact fun t ht => ih t (hp t ht) hrequest

/-- A program that runs within a layer runs between the layer's entering and leaving the span. -/
theorem within_leads {p : Program α} {Q : ν → α → Prop} {v : ν} (hp : p.Leads view Q (enter v))
    {request : Request} (hrequest : I request) :
    (layer.within p request).Leads view
      (fun w result => (∃ last, w = leave last ∧ Q last result.1) ∧ I result.2) v := by
  rintro t rfl
  rw [h.enter hrequest]
  refine (h.instrument_leads hp hrequest).bind ?_
  rintro w ⟨a, request⟩ ⟨ha, hlast⟩ t' rfl
  exact ⟨⟨view t', h.leave hrequest t', ha⟩, hlast⟩

/-- The application is called between the layer's taking up the request and leaving its span. If it
fails the request is settled. -/
theorem call_leads {app : Application σ} {environ : Environ} {v start : ν}
    {C : ν → Option Failure × σ → Prop} {R : ν → Option Failure × Traced σ → Prop}
    (hbegin : ∀ t, view t = v →
      I (layer.begin environ t).1 ∧ view (layer.begin environ t).2 = start)
    (hcalled : (app.call environ).Leads view C (enter start))
    (hnone : ∀ w request inner, I request → C w (none, inner) →
      R (leave w) (none, { request, inner, isOpen := true }))
    (hsome : ∀ w failure request inner last, request.span = none → C w (some failure, inner) →
      settled (leave w) last → R last (some failure, { request, inner, isOpen := false })) :
    (layer.call app environ).Leads view R v := by
  intro t ht
  obtain ⟨hrequest, hstart⟩ := hbegin t ht
  rw [hstart]
  refine (h.within_leads hcalled hrequest).bind ?_
  rintro _ ⟨⟨failure, inner⟩, request⟩ ⟨⟨w, rfl, hinner⟩, hrequest⟩
  cases failure with
  | none => exact hnone w request inner hrequest hinner
  | some failure =>
    intro t' ht'
    refine hsome w failure _ inner _ (layer.settle_span _ _ _) hinner ?_
    rw [← ht', ← h.emit t' (.log (layer.failureRecord request.environ failure))]
    exact h.settle hrequest _ _

/-- At the end of a request its body is closed and let go of, and then the request is settled. -/
theorem finish_leads {app : Application σ} {body : Traced σ} (hopen : body.isOpen = true)
    (hrequest : I body.request) {v : ν} {Q : ν → σ → Prop}
    (hp : ((app.close body.inner).bind app.drop).Leads view Q v) (status : Option SpanStatus) :
    (layer.finish app status body).Leads view (fun w after =>
      (∃ last, settled last w ∧ Q last after.inner) ∧ after.request.span = none ∧
        after.isOpen = false) v := by
  unfold finish
  rw [if_pos hopen]
  refine (h.instrument_leads hp hrequest).bind ?_
  rintro w ⟨inner, request⟩ ⟨hinner, hlast⟩ t rfl
  exact ⟨⟨view t, h.settle hlast status t, hinner⟩, layer.settle_span status request t, rfl⟩

/-- A body is asked for a chunk between the layer's entering and leaving the span. Unless it gives
one, the request ends. -/
theorem next_leads {app : Application σ} {body : Traced σ} (hopen : body.isOpen = true)
    (hrequest : I body.request) {v : ν} {A : ν → Item × σ → Prop}
    {R : ν → Item × Traced σ → Prop}
    (hasked : (app.next body.inner).Leads view A (enter v))
    (hchunk : ∀ w chunk request inner, I request → A w (some (.ok chunk), inner) →
      R (leave w) (some (.ok chunk), { request, inner, isOpen := true }))
    (hlast : ∀ w item inner, Use.next.isLast (.item item) = true → A w (item, inner) →
      ((app.close inner).bind app.drop).Leads view (fun w inner => ∀ last request,
        request.span = none → settled w last → R last (item, { request, inner, isOpen := false }))
        (leave w)) :
    (layer.next app body).Leads view R v := by
  have hfinish : ∀ w item inner request status, Use.next.isLast (.item item) = true →
      A w (item, inner) → I request →
        (layer.finish app status { request, inner, isOpen := true }).Leads view
          (fun last after => R last (item, after)) (leave w) := by
    intro w item inner request status hitem hinner hrequest
    refine (h.finish_leads rfl hrequest (hlast w item inner hitem hinner) status).mono ?_
    rintro last ⟨request, inner, isOpen⟩ ⟨⟨w', hsettled, hR⟩, hspan, rfl⟩
    exact hR last request hspan hsettled
  obtain ⟨request, inner, isOpen⟩ := body
  obtain rfl : isOpen = true := hopen
  refine (h.within_leads hasked hrequest).bind ?_
  rintro _ ⟨⟨item, inner⟩, request⟩ ⟨⟨w, rfl, hitem⟩, hrequest⟩
  rcases item with _ | failure | chunk
  · exact (hfinish w none inner request none rfl hitem hrequest).bind fun _ _ hR => hR
  · intro t ht
    dsimp only [id]
    rw [ht]
    exact (hfinish w (some (.error failure)) inner request _ rfl hitem hrequest).bind
      fun _ _ hR => hR
  · exact hchunk w chunk request inner hrequest hitem

/-- A way to start the response that was kept leads to what it leads to without the layer. -/
theorem respond_leads {app : Application σ} {start : ResponseStart} {body : Traced σ}
    (hrequest : I body.request) {v : ν} {Q : ν → Option Failure × σ → Prop}
    (hp : (app.respond start body.inner).Leads view Q v) :
    ((layer.wrap app).respond start body).Leads view (fun w result =>
      Q w (result.1, result.2.inner) ∧ I result.2.request ∧ result.2.isOpen = body.isOpen) v := by
  refine (h.instrument_leads hp hrequest).bind ?_
  rintro w ⟨⟨answer, after⟩, request⟩ ⟨hanswered, hlast⟩
  exact ⟨hanswered, hlast, rfl⟩

end Footprint

end Layer

end RequestTracing
