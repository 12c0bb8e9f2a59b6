import RequestTracing.Proofs.Program.Run
/-!
Programs that are alike to a server: they start the same responses, whatever the server answers, and
come to results that are in a relation. What they do to the state that all requests share does not
count.
-/
namespace RequestTracing

namespace Program

variable {α β γ δ : Type}

/-- Whether a program goes on in the same way whatever it sees of the shared state, to results of
some kind. -/
def IsBlind (P : α → Prop) : Program α → Prop
  | .done a => P a
  | .respond _ next => ∀ answer, (next answer).IsBlind P
  | .step _ next => ∀ t, (next t).IsBlind P ∧ ∀ other, next t = next other

/-- Whether two programs are alike to a server, with results in some relation. -/
inductive Sim (R : α → β → Prop) : Program α → Program β → Prop
  | done {a : α} {b : β} (h : R a b) : Sim R (.done a) (.done b)
  | respond {start : ResponseStart} {next : Option Failure → Program α}
      {other : Option Failure → Program β} (h : ∀ answer, Sim R (next answer) (other answer)) :
      Sim R (.respond start next) (.respond start other)
  | stepLeft {change : Telemetry → Telemetry} {next : Telemetry → Program α} {q : Program β}
      (h : ∀ t, Sim R (next t) q) : Sim R (.step change next) q
  | stepRight {p : Program α} {change : Telemetry → Telemetry} {next : Telemetry → Program β}
      (h : ∀ t, Sim R p (next t)) : Sim R p (.step change next)

namespace IsBlind

variable {P : α → Prop} {p : Program α}

theorem sim (h : p.IsBlind P) : Sim (fun a b => a = b ∧ P a) p p := by
  induction p with
  | done a => exact .done ⟨rfl, h⟩
  | respond start next ih => exact .respond fun answer => ih answer (h answer)
  | step change next ih =>
    refine .stepLeft fun t => .stepRight fun other => ?_
    rw [← (h t).2 other]
    exact ih t (h t).1

theorem bind {Q : β → Prop} {f : α → Program β} (hp : p.IsBlind P)
    (hf : ∀ a, P a → (f a).IsBlind Q) : (p.bind f).IsBlind Q := by
  induction p with
  | done a => exact hf a hp
  | respond start next ih => exact fun answer => ih answer (hp answer)
  | step change next ih =>
    intro t
    refine ⟨ih t (hp t).1, fun other => ?_⟩
    simp only [(hp t).2 other]

end IsBlind

namespace Sim

variable {R : α → β → Prop} {p : Program α} {q : Program β}

theorem mono {S : α → β → Prop} (h : Sim R p q) (himp : ∀ a b, R a b → S a b) : Sim S p q := by
  induction h with
  | done h => exact .done (himp _ _ h)
  | respond _ ih => exact .respond ih
  | stepLeft _ ih => exact .stepLeft ih
  | stepRight _ ih => exact .stepRight ih

theorem bind {S : γ → δ → Prop} {f : α → Program γ} {g : β → Program δ} (h : Sim R p q)
    (hfg : ∀ a b, R a b → Sim S (f a) (g b)) : Sim S (p.bind f) (q.bind g) := by
  induction h with
  | done h => exact hfg _ _ h
  | respond _ ih => exact .respond ih
  | stepLeft _ ih => exact .stepLeft ih
  | stepRight _ ih => exact .stepRight ih

theorem bindLeft {S : γ → β → Prop} {f : α → Program γ} (h : Sim R p q)
    (hf : ∀ a b, R a b → Sim S (f a) (.done b)) : Sim S (p.bind f) q := by
  rw [← bind_done q]
  exact h.bind hf

theorem bindRight {S : α → δ → Prop} {g : β → Program δ} (h : Sim R p q)
    (hg : ∀ a b, R a b → Sim S (.done a) (g b)) : Sim S p (q.bind g) := by
  rw [← bind_done p]
  exact h.bind hg

/-- Runs of programs that are alike have results in the relation, and leave the server alike. -/
theorem run (h : Sim R p q) (server : Server) (t other : Telemetry) :
    R (p.run server t).1 (q.run server other).1 ∧
      (p.run server t).2.1 = (q.run server other).2.1 := by
  induction h generalizing server t other with
  | done h => exact ⟨h, rfl⟩
  | respond _ ih => exact ih _ _ _ _
  | @stepLeft change next q _ ih => exact ih t server (change t) other
  | @stepRight p change next _ ih => exact ih other server t (change other)

end Sim

end Program

end RequestTracing
