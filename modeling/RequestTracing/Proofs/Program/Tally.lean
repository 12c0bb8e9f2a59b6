import RequestTracing.Proofs.Event.Kinds
import RequestTracing.Proofs.Program.Run
/-!
Programs that measure the same. Whatever they see of the state that all requests share, they start
responses with the same status lines and measure the same in between.
-/
namespace RequestTracing

namespace Telemetry

def metrics (t : Telemetry) : List Event :=
  t.events.filter Event.isMetric

theorem metrics_eq {t last : Telemetry} {new : List Event} (hnew : last.events = t.events ++ new)
    (h : ∀ event ∈ new, event.isMetric = false) : last.metrics = t.metrics := by
  have hnone : new.filter Event.isMetric = [] :=
    List.filter_eq_nil_iff.mpr fun event he => by simp [h event he]
  rw [metrics, hnew, List.filter_append, hnone, List.append_nil]
  rfl

@[simp] theorem metrics_emit (t : Telemetry) (event : Event) :
    (t.emit event).metrics = t.metrics ++ if event.isMetric then [event] else [] := by
  simp [metrics, List.filter_cons]

end Telemetry

/-- Whether two changes of the shared state measure the same, whatever else they do. -/
def MeasureAlike (change other : Telemetry → Telemetry) : Prop :=
  ∀ t u, ∃ more, (change t).metrics = t.metrics ++ more ∧ (other u).metrics = u.metrics ++ more

theorem measureAlike_of_eq {change other : Telemetry → Telemetry}
    (h : ∀ t, (change t).metrics = t.metrics) (hother : ∀ t, (other t).metrics = t.metrics) :
    MeasureAlike change other :=
  fun t u => ⟨[], by rw [h, List.append_nil], by rw [hother, List.append_nil]⟩

namespace Server

/-- Whether two servers have seen the same status lines and answer by nothing else. -/
structure Heeds (server other : Server) : Prop where
  seen : server.seen.map (·.status) = other.seen.map (·.status)
  answer : ∀ starts others : List ResponseStart, starts.map (·.status) = others.map (·.status) →
    server.answer starts = other.answer others

theorem Heeds.receive {server other : Server} (h : server.Heeds other) {start next : ResponseStart}
    (hstatus : start.status = next.status) :
    (server.receive start).1 = (other.receive next).1 ∧
      (server.receive start).2.Heeds (other.receive next).2 := by
  have hseen : (server.seen ++ [start]).map (·.status) = (other.seen ++ [next]).map (·.status) := by
    simp [h.seen, hstatus]
  exact ⟨h.answer _ _ hseen, hseen, h.answer⟩

end Server

namespace Program

variable {α β γ δ : Type}

/-- Whether two programs start responses with the same status lines and measure the same in between,
with results in some relation. -/
inductive Tallies (R : α → β → Prop) : Program α → Program β → Prop
  | done {a : α} {b : β} (h : R a b) : Tallies R (.done a) (.done b)
  | respond {start other : ResponseStart} {next : Option Failure → Program α}
      {rest : Option Failure → Program β} (status : start.status = other.status)
      (h : ∀ answer, Tallies R (next answer) (rest answer)) :
      Tallies R (.respond start next) (.respond other rest)
  | step {change other : Telemetry → Telemetry} {next : Telemetry → Program α}
      {rest : Telemetry → Program β} (measures : MeasureAlike change other)
      (h : ∀ t u, Tallies R (next t) (rest u)) :
      Tallies R (.step change next) (.step other rest)

namespace Tallies

variable {R : α → β → Prop} {p : Program α} {q : Program β}

theorem bind {S : γ → δ → Prop} {f : α → Program γ} {g : β → Program δ} (h : Tallies R p q)
    (hfg : ∀ a b, R a b → Tallies S (f a) (g b)) : Tallies S (p.bind f) (q.bind g) := by
  induction h with
  | done h => exact hfg _ _ h
  | respond status _ ih => exact .respond status ih
  | step measures _ ih => exact .step measures ih

theorem mono {S : α → β → Prop} (h : Tallies R p q) (himp : ∀ a b, R a b → S a b) :
    Tallies S p q := by
  induction h with
  | done h => exact .done (himp _ _ h)
  | respond status _ ih => exact .respond status ih
  | step measures _ ih => exact .step measures ih

theorem run (h : Tallies R p q) {server other : Server} (hserver : server.Heeds other)
    (t u : Telemetry) :
    R (p.run server t).1 (q.run other u).1 ∧
      (p.run server t).2.1.Heeds (q.run other u).2.1 ∧
      ∃ more, (p.run server t).2.2.metrics = t.metrics ++ more ∧
        (q.run other u).2.2.metrics = u.metrics ++ more := by
  induction h generalizing server other t u with
  | done h => exact ⟨h, hserver, [], by simp [Program.run], by simp [Program.run]⟩
  | @respond start next first rest status _ ih =>
    obtain ⟨hanswer, hreceived⟩ := hserver.receive status
    have hquiet (server : Server) (start : ResponseStart) (t : Telemetry) :
        (t.emit (.server server.request start)).metrics = t.metrics := by
      simp [Event.isMetric]
    have hrest := ih (server.receive start).1 hreceived
      (t.emit (.server server.request start)) (u.emit (.server other.request next))
    rw [hquiet, hquiet] at hrest
    rw [run_respond, run_respond, ← hanswer]
    exact hrest
  | @step change first next rest measures _ ih =>
    obtain ⟨new, hnew, hother⟩ := measures t u
    obtain ⟨hresult, hlast, more, hmore, hothers⟩ := ih t u hserver (change t) (first u)
    refine ⟨hresult, hlast, new ++ more, ?_, ?_⟩
    · rw [run_step, hmore, hnew, List.append_assoc]
    · rw [run_step, hothers, hother, List.append_assoc]

end Tallies

end Program

end RequestTracing
