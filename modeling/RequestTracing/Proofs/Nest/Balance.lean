import RequestTracing.Proofs.Application.Transparency
import RequestTracing.Proofs.Nest.Attendance
import RequestTracing.Proofs.Nest.Looks
/-!
The balance of spans that are entered and left, for any number of layers around an application and
all that can be done with a request.
-/
namespace RequestTracing

open Program

/-- The states of a request that can come of a first one by uses, each of which is made at a time of
its own, with any other things current. -/
inductive Application.Reaches {σ : Type} (app : Application σ) (first : σ) : σ → Prop
  | refl : app.Reaches first first
  | use {state : σ} (before : app.Reaches first state) (use : Use) (server : Server)
      (t : Telemetry) : app.Reaches first ((app.use use state).run server t).1.2

namespace Application.Attends

variable {σ : Type} {app : Application σ} {seen : σ → List Sight}
  {inside outside : Environ → Telemetry → List SpanContext}
  {Open : List SpanContext → List SpanContext → σ → Prop} {Closed : σ → Prop}
  (h : app.Attends seen inside outside Open Closed)

include h

/-- A use is made with the spans current that it should be made with, at any time. -/
theorem run_use {within around : List SpanContext} {state : σ}
    (hstate : Open within around state ∨ Closed state) (use : Use) (server : Server)
    (t : Telemetry) :
    let used := (app.use use state).run server t
    (Open within around used.1.2 ∨ Closed used.1.2) ∧ used.2.2.entered = t.entered ∧
      Sees seen (·.Fits use.part within around t.entered) state used.1.2 := by
  intro used
  rcases hstate with hopen | hclosed
  · obtain ⟨hentered, hsees, hlast⟩ :=
      Leads.run Telemetry.bare_emit server t (h.use hopen use t.bare)
    refine ⟨?_, hentered, hsees⟩
    split at hlast
    · exact .inr hlast
    · exact .inl hlast
  · obtain ⟨hentered, hsees, hlast⟩ :=
      Leads.run Telemetry.bare_emit server t (h.late hclosed use t.bare)
    refine ⟨.inr hlast, hentered, hsees.mono ?_⟩
    rintro sight ⟨hpart, rfl⟩
    rw [hpart]
    rfl

theorem reaches {within around : List SpanContext} {first state : σ}
    (hfirst : Open within around first ∨ Closed first) (hstate : app.Reaches first state) :
    Open within around state ∨ Closed state := by
  induction hstate with
  | refl => exact hfirst
  | use _ use server t ih => exact (h.run_use ih use server t).1

end Application.Attends

namespace Layer

variable {σ : Type}

def entryAll : List Layer → Environ → Telemetry → Telemetry
  | [], _, t => t
  | layer :: layers, environ, t => entryAll layers environ (layer.entry environ t)

theorem currents_append (outers : List Layer) (layer : Layer) (environ : Environ) (t : Telemetry) :
    currents (outers ++ [layer]) environ t =
      (layer.begin environ (entryAll outers environ t)).1.currents ++
        currents outers environ t := by
  induction outers generalizing t with
  | nil => simp [currents, entryAll]
  | cons outer outers ih =>
    rw [List.cons_append, currents, ih, currents, entryAll, List.append_assoc]

def sights (outers : List Layer) (state : Nested (Traced (σ × List Sight)) outers) : List Sight :=
  (innermost outers state).inner.2

/-- Any number of layers run an application with the spans current that it should be run with. -/
theorem wrapAll_attends (outers : List Layer) (layer : Layer) {app : Application σ}
    (happ : app.KeepsEntered) :
    ∃ Open Closed, (wrapAll outers (layer.wrap app.watched)).Attends (sights outers)
      (currents (outers ++ [layer])) (currents outers) Open Closed := by
  -- The innermost layer is apart: it releases the body itself, and does so without its span. A
  -- layer around it asks for a chunk and finds the body released.
  induction outers with
  | nil => exact ⟨_, _, layer.wrap_attends happ⟩
  | cons outer outers ih =>
    obtain ⟨Open, Closed, hattends⟩ := ih
    exact ⟨_, _, outer.wrap_attends_of_attends hattends⟩

/-- Whatever an application within any number of layers does, and whatever is done with a request of
it at what time, afterwards the same spans are current as before. While the application is called
and while its body is asked for a chunk, the span of the innermost layer is current, and before it
those of the layers around. While the body is closed and let go of, those are current that were so
when the innermost layer was asked for a chunk, closed or let go of. -/
theorem wrapAll_balanced (outers : List Layer) {layer : Layer} {exporting : Bool}
    {own : Option Propagator} (htracer : layer.tracer = .distributed exporting own)
    {app : Application σ} (happ : app.KeepsEntered) (environ : Environ) (server : Server)
    (t : Telemetry) :
    let nest := wrapAll outers (layer.wrap app.watched)
    let inside := currents (outers ++ [layer]) environ t
    let outside := currents outers environ t
    let called := (nest.call environ).run server t
    (∃ span, (layer.begin environ (entryAll outers environ t)).1.span = some (.distributed span) ∧
      inside = span.context :: outside) ∧
    called.2.2.entered = t.entered ∧
    (∀ sight ∈ sights outers called.1.2, sight.Fits .call inside outside t.entered) ∧
    (∀ state, nest.Reaches called.1.2 state → ∀ use server t,
      let used := (nest.use use state).run server t
      used.2.2.entered = t.entered ∧
        Sees (sights outers) (·.Fits use.part inside outside t.entered) state used.1.2) ∧
    ∀ uses, let watched := nest.serve environ uses server t
      let service := (wrapAll outers (layer.wrap app)).serve environ uses server t
      service.failure = watched.failure ∧ service.outcomes = watched.outcomes ∧
        service.server = watched.server ∧ service.telemetry = watched.telemetry := by
  intro nest inside outside called
  obtain ⟨Open, Closed, hattends⟩ := wrapAll_attends outers layer happ
  obtain ⟨hentered, hsights, hfirst⟩ :=
    Leads.run Telemetry.bare_emit server t (hattends.call environ t)
  have hheld : Open inside outside called.1.2 ∨ Closed called.1.2 := by
    split at hfirst
    · exact .inl hfirst
    · exact .inr hfirst
  refine ⟨?_, hentered, hsights, fun state hstate use server t => ?_, fun uses => ?_⟩
  · obtain ⟨span, hspan, hcurrents⟩ :=
      layer.begin_distributed htracer environ (entryAll outers environ t)
    refine ⟨span, hspan, ?_⟩
    simp only [inside, currents_append, hcurrents]
    rfl
  · exact (hattends.run_use (hattends.reaches hheld hstate) use server t).2
  · obtain ⟨f, hlooks⟩ := wrapAll_looks outers (layer.wrap_looks app.watched_looks)
    rw [hlooks.serve]
    exact ⟨rfl, rfl, rfl, rfl⟩

theorem wrapAll_balanced_talkative :
    let layer : Layer := { tracer := .distributed true none, meter := .observer, capture := {} }
    let app := Script.application "request" Script.talkative
    let nest := wrapAll [layer, layer] (layer.wrap app.watched)
    let called := (nest.call .empty).run { request := "request" } {}
    app.KeepsEntered ∧ layer.tracer = .distributed true none ∧ called.2.2.entered = [] ∧
      (∃ context, ∀ sight ∈ sights [layer, layer] called.1.2,
        sight.Fits .call (context :: currents [layer, layer] .empty {})
          (currents [layer, layer] .empty {}) []) ∧
      ∀ state, nest.Reaches called.1.2 state → ∀ use server t,
        ((nest.use use state).run server t).2.2.entered = t.entered := by
  intro layer app nest called
  have hkeeps : app.KeepsEntered :=
    (Script.application_onlyReports "request" Script.talkative).keepsEntered
  have htracer : layer.tracer = .distributed true none := rfl
  subst called nest
  obtain ⟨⟨span, _, hinside⟩, hentered, hsights, hused, _⟩ :=
    wrapAll_balanced [layer, layer] htracer hkeeps .empty { request := "request" } {}
  rw [hinside] at hsights
  exact ⟨hkeeps, htracer, hentered, ⟨span.context, hsights⟩, fun state hstate use server t =>
    (hused state hstate use server t).1⟩

end Layer

end RequestTracing
