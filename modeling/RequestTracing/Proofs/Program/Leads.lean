import RequestTracing.Proofs.Program.Moves
/-!
What programs lead to, judged by a view of the state that all requests share. Whatever is not in the
view may change between any two moves of a program, so that the judgement of an application also
holds of it within layers.
-/
namespace RequestTracing

namespace Program

variable {ν α β : Type}

/-- Whether a program that starts with some view of the shared state leads to a last view and a
result of some kind, whatever the server answers and whatever is not in the view. -/
def Leads (view : Telemetry → ν) (Q : ν → α → Prop) : Program α → ν → Prop
  | .done a, v => Q v a
  | .respond _ next, v => ∀ answer, (next answer).Leads view Q v
  | .step change next, v => ∀ t, view t = v → (next t).Leads view Q (view (change t))

variable {view : Telemetry → ν} {Q : ν → α → Prop} {p : Program α} {v : ν}

theorem Leads.mono {R : ν → α → Prop} (h : p.Leads view Q v) (himp : ∀ w a, Q w a → R w a) :
    p.Leads view R v := by
  induction p generalizing v with
  | done a => exact himp v a h
  | respond start next ih => exact fun answer => ih answer (h answer)
  | step change next ih => exact fun t ht => ih t (h t ht)

theorem leads_pure {a : α} : (pure a : Program α).Leads view Q v ↔ Q v a :=
  Iff.rfl

/-- One program after another leads to what the other leads to from where the one has led. -/
theorem leads_bind {R : ν → β → Prop} {f : α → Program β} :
    (p.bind f).Leads view R v ↔ p.Leads view (fun w a => (f a).Leads view R w) v := by
  induction p generalizing v with
  | done a => exact Iff.rfl
  | respond start next ih => exact forall_congr' fun answer => ih answer
  | step change next ih => exact forall_congr' fun t => imp_congr_right fun _ => ih t

theorem Leads.bind {R : ν → β → Prop} {f : α → Program β} (h : p.Leads view Q v)
    (hf : ∀ w a, Q w a → (f a).Leads view R w) : (p.bind f).Leads view R v :=
  leads_bind.mpr (h.mono hf)

variable (hview : ∀ (t : Telemetry) event, view (t.emit event) = view t)

include hview

/-- What a program leads to is what every run of it comes to, if events are not in the view. -/
theorem Leads.run (server : Server) (t : Telemetry) (h : p.Leads view Q (view t)) :
    Q (view (p.run server t).2.2) (p.run server t).1 := by
  induction p generalizing server t with
  | done a => exact h
  | respond start next ih =>
    have hanswered := h (server.receive start).1
    rw [← hview t (.server server.request start)] at hanswered
    exact ih _ _ _ hanswered
  | step change next ih => exact ih t server (change t) (h t rfl)

theorem view_emitAll (t : Telemetry) (events : List Event) : view (t.emitAll events) = view t := by
  induction events generalizing t with
  | nil => rfl
  | cons event events ih => exact (ih (t.emit event)).trans (hview t event)

theorem OnlyReports.leads (hp : p.OnlyReports) : p.Leads view (fun w _ => w = v) v := by
  induction p with
  | done a => rfl
  | respond start next ih => exact fun answer => ih answer (hp answer)
  | step change next ih =>
    intro t ht
    obtain ⟨⟨events, _, hchange⟩, hnext⟩ := hp t
    rw [hchange, view_emitAll hview, ht]
    exact ih t hnext

end Program

end RequestTracing
