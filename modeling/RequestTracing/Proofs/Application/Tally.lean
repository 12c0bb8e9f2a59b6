import RequestTracing.Application.Script
import RequestTracing.Proofs.Program.Tally
/-!
Applications for which the same is measured whatever they find around a request: they start the same
responses, up to the headers of these, and give the same chunks. Those that follow a script are of
this kind.
-/
namespace RequestTracing

open Program

/-- Whether what an application does for one environment and for another is measured alike, where
its states are in some relation. -/
structure Application.Tallies {σ : Type} (app : Application σ) (environ other : Environ)
    (R : σ → σ → Prop) : Prop where
  call : Program.Tallies (fun a b => a.1 = b.1 ∧ R a.2 b.2) (app.call environ) (app.call other)
  next : ∀ {first second}, R first second →
    Program.Tallies (fun a b => a.1 = b.1 ∧ R a.2 b.2) (app.next first) (app.next second)
  close : ∀ {first second}, R first second →
    Program.Tallies R (app.close first) (app.close second)
  drop : ∀ {first second}, R first second → Program.Tallies R (app.drop first) (app.drop second)
  respond : ∀ start {first second}, R first second →
    Program.Tallies (fun a b => a.1 = b.1 ∧ R a.2 b.2) (app.respond start first)
      (app.respond start second)

namespace Application.Tallies

variable {σ : Type} {app : Application σ} {environ other : Environ} {R : σ → σ → Prop}
  (h : app.Tallies environ other R)

include h

theorem use (use : Use) {first second : σ} (hstates : R first second) :
    Program.Tallies (fun a b => a.1 = b.1 ∧ R a.2 b.2) (app.use use first)
      (app.use use second) := by
  cases use with
  | next => exact (h.next hstates).bind fun _ _ hab => .done ⟨congrArg Outcome.item hab.1, hab.2⟩
  | close => exact (h.close hstates).bind fun _ _ hab => .done ⟨rfl, hab⟩
  | drop => exact (h.drop hstates).bind fun _ _ hab => .done ⟨rfl, hab⟩
  | respond start =>
    exact (h.respond start hstates).bind fun _ _ hab => .done ⟨congrArg Outcome.answer hab.1, hab.2⟩

theorem useAll (uses : List Use) {first second : σ} (hstates : R first second) :
    Program.Tallies (fun a b => a.1 = b.1 ∧ R a.2 b.2) (app.useAll uses first)
      (app.useAll uses second) := by
  induction uses generalizing first second with
  | nil => exact .done ⟨rfl, hstates⟩
  | cons use uses ih =>
    refine (h.use use hstates).bind ?_
    rintro ⟨outcome, first⟩ ⟨_, second⟩ ⟨rfl, hused⟩
    refine (ih hused).bind ?_
    rintro ⟨outcomes, first⟩ ⟨_, second⟩ ⟨rfl, hlast⟩
    exact .done ⟨rfl, hlast⟩

theorem serve (uses : List Use) {server another : Server} (hserver : server.Heeds another)
    (t u : Telemetry) :
    ∃ more, (app.serve environ uses server t).telemetry.metrics = t.metrics ++ more ∧
      (app.serve other uses another u).telemetry.metrics = u.metrics ++ more := by
  have hboth : Program.Tallies (fun _ _ => True)
      ((app.call environ).bind fun called => app.useAll uses called.2)
      ((app.call other).bind fun called => app.useAll uses called.2) :=
    h.call.bind fun _ _ hcalled => (h.useAll uses hcalled.2).mono fun _ _ _ => trivial
  obtain ⟨_, _, more, hmore, hothers⟩ := hboth.run hserver t u
  rw [run_bind] at hmore hothers
  exact ⟨more, hmore, hothers⟩

end Application.Tallies

namespace ScriptedStart

theorem run_tallies (scripted : ScriptedStart) : Tallies Eq scripted.run scripted.run := by
  have hstatus (t : Telemetry) : (scripted.prepare t).status = scripted.start.status := by
    unfold prepare
    split <;> rfl
  refine .step (measureAlike_of_eq (fun _ => rfl) fun _ => rfl) fun t u => ?_
  exact .respond ((hstatus t).trans (hstatus u).symm) fun answer => .done rfl

theorem runAll_tallies (starts : List ScriptedStart) :
    Tallies Eq (runAll starts) (runAll starts) := by
  induction starts with
  | nil => exact .done rfl
  | cons first rest ih => exact first.run_tallies.bind fun _ _ _ => ih

end ScriptedStart

theorem ScriptedBody.follow_tallies (actions : List BodyAction) :
    Tallies Eq (follow actions) (follow actions) := by
  induction actions with
  | nil => exact .done rfl
  | cons action rest ih =>
    cases action with
    | give item => exact .done rfl
    | start scripted =>
      refine scripted.run_tallies.bind ?_
      rintro outcome _ rfl
      cases outcome with
      | none => exact ih
      | some failure => exact .done rfl

theorem ScriptState.report_tallies (body : ScriptedBody) {event : Option SpanContext → Event}
    (hquiet : ∀ current, (event current).isMetric = false) :
    Tallies Eq (report body event) (report body event) := by
  have hsame (t : Telemetry) : (t.emit (event t.current?)).metrics = t.metrics := by
    simp [hquiet]
  unfold report
  split
  · exact .step (measureAlike_of_eq hsame hsame) fun _ _ => .done rfl
  · exact .done rfl

namespace Script

theorem follow_tallies (kept : Bool) (script : List ScriptAction) :
    Tallies Eq (follow kept script) (follow kept script) := by
  induction script generalizing kept with
  | nil => exact .done rfl
  | cons action rest ih =>
    cases action with
    | keep => exact ih true
    | fail failure => exact .done rfl
    | body body => exact .done rfl
    | start scripted =>
      refine scripted.run_tallies.bind ?_
      rintro outcome _ rfl
      cases outcome with
      | none => exact ih kept
      | some failure => exact .done rfl

/-- What is measured of an application that follows a script does not depend on its environment. -/
theorem application_tallies (request : String) (script : List ScriptAction)
    (environ other : Environ) : (application request script).Tallies environ other Eq where
  call := by
    have hsame (t : Telemetry) :
        (t.emit (.application request t.current?)).metrics = t.metrics := by
      simp [Event.isMetric]
    refine .step (measureAlike_of_eq hsame hsame) fun _ _ => ?_
    exact (follow_tallies false script).mono fun _ _ h => h ▸ ⟨rfl, rfl⟩
  next := by
    rintro state _ rfl
    refine (ScriptState.report_tallies state.body fun _ => rfl).bind fun _ _ _ => ?_
    refine (ScriptedBody.follow_tallies state.body.actions).bind ?_
    rintro ⟨item, actions⟩ _ rfl
    exact .done ⟨rfl, rfl⟩
  close := by
    rintro state _ rfl
    refine (ScriptState.report_tallies state.body fun _ => rfl).bind fun _ _ _ => ?_
    exact (ScriptedStart.runAll_tallies state.body.onClose).bind fun _ _ _ => .done rfl
  drop := by
    rintro state _ rfl
    refine (ScriptState.report_tallies state.body fun _ => rfl).bind fun _ _ _ => ?_
    exact (ScriptedStart.runAll_tallies state.body.onDrop).bind fun _ _ _ => .done rfl
  respond := by
    rintro start state _ rfl
    exact .respond rfl fun answer => .done ⟨rfl, rfl⟩

end Script

end RequestTracing
