import RequestTracing.Proofs.Program.Leads
import RequestTracing.Proofs.Span.Current
/-!
Applications that look at the spans that are current. A watched application is the application
itself, and it keeps what it has seen at each of its moves.
-/
namespace RequestTracing

inductive Part where
  | call
  | next
  | close
  | drop
  | respond
  deriving DecidableEq

def Use.part : Use → Part
  | .next => .next
  | .close => .close
  | .drop => .drop
  | .respond _ => .respond

/-- What a part of an application sees at one of its moves: the spans that are current, the latest
first. -/
structure Sight where
  part : Part
  entered : List SpanContext

namespace Program

variable {α : Type}

/-- The program as a part of an application, with what it sees at each of its moves. -/
def watch (part : Part) : Program α → Program (α × List Sight)
  | .done a => .done (a, [])
  | .respond start next =>
    .step id fun t => .respond start fun answer => do
      let (a, sights) ← watch part (next answer)
      return (a, ⟨part, t.entered⟩ :: sights)
  | .step change next =>
    .step change fun t => do
      let (a, sights) ← watch part (next t)
      return (a, ⟨part, t.entered⟩ :: sights)

/-- Whether a program leaves the spans current that are. -/
def KeepsEntered : Program α → Prop
  | .done _ => True
  | .respond _ next => ∀ answer, (next answer).KeepsEntered
  | .step change next => ∀ t, (change t).entered = t.entered ∧ (next t).KeepsEntered

theorem OnlyReports.keepsEntered {p : Program α} (hp : p.OnlyReports) : p.KeepsEntered := by
  induction p with
  | done a => trivial
  | respond start next ih => exact fun answer => ih answer (hp answer)
  | step change next ih =>
    intro t
    obtain ⟨⟨events, _, hchange⟩, hnext⟩ := hp t
    exact ⟨by rw [hchange, Telemetry.emitAll_eq], ih t hnext⟩

/-- A program that keeps to the spans that are current sees them at all its moves. -/
theorem KeepsEntered.watch_leads {p : Program α} (hp : p.KeepsEntered) (part : Part)
    (v : Telemetry) :
    (p.watch part).Leads Telemetry.bare (fun w result => w.entered = v.entered ∧
      ∀ sight ∈ result.2, sight = ⟨part, v.entered⟩) v := by
  induction p generalizing v with
  | done a => exact ⟨rfl, by simp⟩
  | respond start next ih =>
    rintro t rfl answer
    refine (ih answer (hp answer) t.bare).bind ?_
    rintro w ⟨a, sights⟩ ⟨hentered, hsights⟩
    exact ⟨hentered, List.forall_mem_cons.mpr ⟨rfl, hsights⟩⟩
  | step change next ih =>
    rintro t rfl
    obtain ⟨hkeep, hnext⟩ := hp t
    refine (ih t hnext (change t).bare).bind ?_
    rintro w ⟨a, sights⟩ ⟨hentered, hsights⟩
    rw [Telemetry.bare_entered, hkeep] at hentered hsights
    exact ⟨hentered, List.forall_mem_cons.mpr ⟨rfl, hsights⟩⟩

end Program

namespace Application

variable {σ : Type}

/-- Whether an application leaves the spans current that are, in all its parts. -/
structure KeepsEntered (app : Application σ) : Prop where
  call : ∀ environ, (app.call environ).KeepsEntered
  next : ∀ state, (app.next state).KeepsEntered
  close : ∀ state, (app.close state).KeepsEntered
  drop : ∀ state, (app.drop state).KeepsEntered
  respond : ∀ start state, (app.respond start state).KeepsEntered

theorem OnlyReports.keepsEntered {app : Application σ} (h : app.OnlyReports) :
    app.KeepsEntered where
  call environ := (h.call environ).keepsEntered
  next state := (h.next state).keepsEntered
  close state := (h.close state).keepsEntered
  drop state := (h.drop state).keepsEntered
  respond start state := (h.respond start state).keepsEntered

def watched (app : Application σ) : Application (σ × List Sight) where
  call environ := do
    let ((failure, state), sights) ← (app.call environ).watch .call
    return (failure, state, sights)
  next := fun (state, seen) => do
    let ((item, state), sights) ← (app.next state).watch .next
    return (item, state, seen ++ sights)
  close := fun (state, seen) => do
    let (state, sights) ← (app.close state).watch .close
    return (state, seen ++ sights)
  drop := fun (state, seen) => do
    let (state, sights) ← (app.drop state).watch .drop
    return (state, seen ++ sights)
  keeps := fun (state, _) => app.keeps state
  respond start := fun (state, seen) => do
    let ((answer, state), sights) ← (app.respond start state).watch .respond
    return (answer, state, seen ++ sights)

end Application

end RequestTracing
