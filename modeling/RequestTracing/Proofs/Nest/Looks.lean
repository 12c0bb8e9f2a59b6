import RequestTracing.Proofs.Nest.Sight
/-!
Looking on changes nothing. A watched application does what the application itself does, also within
layers.
-/
namespace RequestTracing

namespace Program

variable {α β γ δ : Type}

/-- Whether a program does what another one does and also looks on. Its results have more to them,
which can be left out. -/
inductive Looks (f : α → β) : Program α → Program β → Prop
  | done {a : α} {b : β} (h : f a = b) : Looks f (.done a) (.done b)
  | respond {start : ResponseStart} {next : Option Failure → Program α}
      {other : Option Failure → Program β} (h : ∀ answer, Looks f (next answer) (other answer)) :
      Looks f (.respond start next) (.respond start other)
  | step {change : Telemetry → Telemetry} {next : Telemetry → Program α}
      {other : Telemetry → Program β} (h : ∀ t, Looks f (next t) (other t)) :
      Looks f (.step change next) (.step change other)
  | look {next : Telemetry → Program α} {q : Program β} (h : ∀ t, Looks f (next t) q) :
      Looks f (.step id next) q

namespace Looks

variable {f : α → β} {p : Program α} {q : Program β}

theorem bind {g : γ → δ} (h : Looks f p q) {next : α → Program γ} {other : β → Program δ}
    (hnext : ∀ a, Looks g (next a) (other (f a))) : Looks g (p.bind next) (q.bind other) := by
  induction h with
  | done h => exact h ▸ hnext _
  | respond _ ih => exact .respond ih
  | step _ ih => exact .step ih
  | look _ ih => exact .look ih

theorem bindLeft {g : γ → β} (h : Looks f p q) {next : α → Program γ}
    (hnext : ∀ a, Looks g (next a) (.done (f a))) : Looks g (p.bind next) q := by
  rw [← bind_done q]
  exact h.bind hnext

theorem run (h : Looks f p q) (server : Server) (t : Telemetry) :
    q.run server t = (f (p.run server t).1, (p.run server t).2) := by
  induction h generalizing server t with
  | done h => rw [← h]; rfl
  | respond _ ih => exact ih _ _ _
  | @step change next other _ ih => exact ih t server (change t)
  | look _ ih => exact ih t server t

end Looks

theorem watch_looks (part : Part) (p : Program α) : Looks Prod.fst (p.watch part) p := by
  induction p with
  | done a => exact .done rfl
  | respond start next ih =>
    exact .look fun t => .respond fun answer => (ih answer).bindLeft fun _ => .done rfl
  | step change next ih => exact .step fun t => (ih t).bindLeft fun _ => .done rfl

end Program

open Program

/-- Whether an application does what another one does and also looks on. -/
structure Application.Looks {σ τ : Type} (f : σ → τ) (watching : Application σ)
    (app : Application τ) : Prop where
  call : ∀ environ, Program.Looks (Prod.map id f) (watching.call environ) (app.call environ)
  next : ∀ state, Program.Looks (Prod.map id f) (watching.next state) (app.next (f state))
  close : ∀ state, Program.Looks f (watching.close state) (app.close (f state))
  drop : ∀ state, Program.Looks f (watching.drop state) (app.drop (f state))
  respond : ∀ start state,
    Program.Looks (Prod.map id f) (watching.respond start state) (app.respond start (f state))

theorem Application.watched_looks {σ : Type} (app : Application σ) :
    app.watched.Looks Prod.fst app where
  call _ := (watch_looks .call _).bindLeft fun _ => .done rfl
  next _ := (watch_looks .next _).bindLeft fun _ => .done rfl
  close _ := (watch_looks .close _).bindLeft fun _ => .done rfl
  drop _ := (watch_looks .drop _).bindLeft fun _ => .done rfl
  respond _ _ := (watch_looks .respond _).bindLeft fun _ => .done rfl

def Traced.map {σ τ : Type} (f : σ → τ) (body : Traced σ) : Traced τ :=
  { request := body.request, inner := f body.inner, isOpen := body.isOpen }

namespace Layer

variable {σ τ α β : Type} (layer : Layer)

theorem instrument_looks {f : α → β} {p : Program α} {q : Program β} (h : Looks f p q)
    (request : Request) :
    Looks (Prod.map f id) (layer.instrument p request) (layer.instrument q request) := by
  induction h generalizing request with
  | done h => exact .done (congrArg (·, request) h)
  | respond _ ih => exact .step fun t => .respond fun answer => ih answer _
  | step _ ih => exact .step fun t => ih t request
  | look _ ih => exact .look fun t => ih t request

theorem within_looks {f : α → β} {p : Program α} {q : Program β} (h : Looks f p q)
    (request : Request) :
    Looks (Prod.map f id) (layer.within p request) (layer.within q request) :=
  .step fun _ => (layer.instrument_looks h request).bind fun _ => .step fun _ => .done rfl

theorem finish_looks {f : σ → τ} {watching : Application σ} {app : Application τ}
    (h : watching.Looks f app) (status : Option SpanStatus) (body : Traced σ) :
    Looks (Traced.map f) (layer.finish watching status body)
      (layer.finish app status (body.map f)) := by
  obtain ⟨request, inner, isOpen⟩ := body
  cases isOpen with
  | false => exact .done rfl
  | true =>
    refine (layer.instrument_looks ((h.close inner).bind h.drop) request).bind ?_
    exact fun _ => .step fun _ => .done rfl

theorem wrap_looks {f : σ → τ} {watching : Application σ} {app : Application τ}
    (h : watching.Looks f app) : (layer.wrap watching).Looks (Traced.map f) (layer.wrap app) where
  call environ := by
    refine .step fun t => (layer.within_looks (h.call environ) _).bind ?_
    rintro ⟨⟨failure, inner⟩, request⟩
    cases failure with
    | none => exact .done rfl
    | some failure => exact .step fun _ => .done rfl
  next := by
    rintro ⟨request, inner, isOpen⟩
    cases isOpen with
    | false => exact .done rfl
    | true =>
      refine (layer.within_looks (h.next inner) request).bind ?_
      rintro ⟨⟨item, inner⟩, request⟩
      rcases item with _ | failure | chunk
      · exact (layer.finish_looks h none ⟨request, inner, true⟩).bind fun _ => .done rfl
      · exact .step fun t =>
          (layer.finish_looks h _ ⟨request, inner, true⟩).bind fun _ => .done rfl
      · exact .done rfl
  close body := layer.finish_looks h none body
  drop body := layer.finish_looks h none body
  respond start body :=
    (layer.instrument_looks (h.respond start body.inner) body.request).bind fun _ => .done rfl

theorem wrapAll_looks (layers : List Layer) {f : σ → τ} {watching : Application σ}
    {app : Application τ} (h : watching.Looks f app) :
    ∃ g : Nested σ layers → Nested τ layers,
      (wrapAll layers watching).Looks g (wrapAll layers app) := by
  induction layers with
  | nil => exact ⟨f, h⟩
  | cons layer layers ih =>
    obtain ⟨g, hg⟩ := ih
    exact ⟨Traced.map g, layer.wrap_looks hg⟩

end Layer

namespace Application.Looks

variable {σ τ : Type} {f : σ → τ} {watching : Application σ} {app : Application τ}
  (h : watching.Looks f app)

include h

theorem use (use : Use) (state : σ) :
    Program.Looks (Prod.map id f) (watching.use use state) (app.use use (f state)) := by
  cases use with
  | next => exact (h.next state).bind fun _ => .done rfl
  | close => exact (h.close state).bind fun _ => .done rfl
  | drop => exact (h.drop state).bind fun _ => .done rfl
  | respond start => exact (h.respond start state).bind fun _ => .done rfl

theorem useAll (uses : List Use) (state : σ) :
    Program.Looks (Prod.map id f) (watching.useAll uses state) (app.useAll uses (f state)) := by
  induction uses generalizing state with
  | nil => exact .done rfl
  | cons use uses ih => exact (h.use use state).bind fun _ => (ih _).bind fun _ => .done rfl

theorem serve (environ : Environ) (uses : List Use) (server : Server) (t : Telemetry) :
    let watched := watching.serve environ uses server t
    app.serve environ uses server t =
      { failure := watched.failure, outcomes := watched.outcomes, state := f watched.state
        server := watched.server, telemetry := watched.telemetry } := by
  have hcall := (h.call environ).run server t
  have huses (state : σ) (server : Server) (t : Telemetry) :=
    (h.useAll uses state).run server t
  simp only [Application.serve, hcall, Prod.map_fst, Prod.map_snd, id_eq, huses]

end Application.Looks

end RequestTracing
