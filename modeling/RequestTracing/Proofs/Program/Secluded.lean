import RequestTracing.Proofs.Program.Moves
/-!
Programs that keep to their own request. Besides starting responses they only add events of their
own, and of the state that all requests share they see nothing but what no request changes.
-/
namespace RequestTracing

/-- What the requests of a process find around them: whether spans keep updates, the spans that are
current, and the propagator. -/
structure Surroundings where
  recording : Bool
  entered : List SpanContext
  propagator : Propagator

namespace Telemetry

def surroundings (t : Telemetry) : Surroundings :=
  { recording := t.recording, entered := t.entered, propagator := t.propagator }

def within (around : Surroundings) : Telemetry :=
  { recording := around.recording
    entered := around.entered
    propagator := around.propagator }

@[simp] theorem surroundings_within (around : Surroundings) :
    (within around).surroundings = around := rfl

@[simp] theorem surroundings_emit (t : Telemetry) (event : Event) :
    (t.emit event).surroundings = t.surroundings := rfl

@[simp] theorem surroundings_emitAll (t : Telemetry) (events : List Event) :
    (t.emitAll events).surroundings = t.surroundings := by
  rw [emitAll_eq]
  rfl

theorem active?_congr {t other : Telemetry} (h : t.surroundings = other.surroundings) :
    t.active? = other.active? :=
  congrArg (fun around => around.entered.head?) h

theorem current?_congr {t other : Telemetry} (h : t.surroundings = other.surroundings) :
    t.current? = other.current? :=
  congrArg (·.filter SpanContext.isValid) (active?_congr h)

end Telemetry

namespace Program

variable {α β : Type}

/-- Whether a program, besides starting responses, only adds events of its own, and these events and
how it goes on depend on nothing but its surroundings and the answers of its server. -/
def IsSecluded : Program α → Prop
  | .done _ => True
  | .respond _ next => ∀ answer, (next answer).IsSecluded
  | .step change next => ∀ t,
    (∃ events : List Event, (∀ event ∈ events, event.isReport = true) ∧
      ∀ other, other.surroundings = t.surroundings → change other = other.emitAll events) ∧
    (∀ other, other.surroundings = t.surroundings → next other = next t) ∧ (next t).IsSecluded

theorem IsSecluded.bind {p : Program α} {f : α → Program β} (hp : p.IsSecluded)
    (hf : ∀ a, (f a).IsSecluded) : (p.bind f).IsSecluded := by
  induction p with
  | done a => exact hf a
  | respond start next ih => exact fun answer => ih answer (hp answer)
  | step change next ih =>
    intro t
    obtain ⟨hchange, hnext, hsecluded⟩ := hp t
    exact ⟨hchange, fun other h => congrArg (·.bind f) (hnext other h), ih t hsecluded⟩

theorem IsSecluded.onlyReports {p : Program α} (hp : p.IsSecluded) : p.OnlyReports := by
  induction p with
  | done a => trivial
  | respond start next ih => exact fun answer => ih answer (hp answer)
  | step change next ih =>
    intro t
    obtain ⟨⟨events, hown, hchange⟩, _, hsecluded⟩ := hp t
    exact ⟨⟨events, hown, hchange t rfl⟩, ih t hsecluded⟩

theorem isSecluded_start (start : ResponseStart) : (Program.start start).IsSecluded :=
  fun _ => trivial

theorem isSecluded_read {view : Telemetry → α}
    (h : ∀ t other : Telemetry, other.surroundings = t.surroundings → view other = view t) :
    (read view).IsSecluded :=
  fun t => ⟨⟨[], by simp, fun _ _ => rfl⟩, fun other hother => congrArg done (h t other hother),
    trivial⟩

theorem isSecluded_emit {event : Telemetry → Event} (hreport : ∀ t, (event t).isReport = true)
    (h : ∀ t other : Telemetry, other.surroundings = t.surroundings → event other = event t) :
    (modify fun t => t.emit (event t)).IsSecluded := by
  refine fun t =>
    ⟨⟨[event t], by simp [hreport t], fun other hother => ?_⟩, fun _ _ => rfl, trivial⟩
  simp only [h t other hother]
  rfl

end Program

/-- Whether what an application does with a request depends on nothing but that request and what no
request changes. -/
structure Application.IsSecluded {σ : Type} (app : Application σ) : Prop where
  call : ∀ environ, (app.call environ).IsSecluded
  next : ∀ state, (app.next state).IsSecluded
  close : ∀ state, (app.close state).IsSecluded
  drop : ∀ state, (app.drop state).IsSecluded
  respond : ∀ start state, (app.respond start state).IsSecluded

theorem Application.IsSecluded.onlyReports {σ : Type} {app : Application σ} (h : app.IsSecluded) :
    app.OnlyReports where
  call environ := (h.call environ).onlyReports
  next state := (h.next state).onlyReports
  close state := (h.close state).onlyReports
  drop state := (h.drop state).onlyReports
  respond start state := (h.respond start state).onlyReports

end RequestTracing
