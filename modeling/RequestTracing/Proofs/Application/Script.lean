import RequestTracing.Application.Script
import RequestTracing.Proofs.Application.Fused
import RequestTracing.Proofs.Program.Secluded
/-!
Applications that follow a script keep to their own request: besides starting responses they add
events of their own to the state that all requests share, and nothing else. Unless they hand on the
current span, they depend on nothing but the answers of the server.
-/
namespace RequestTracing

open Program

namespace ScriptedStart

/-- Only the propagator and the current span are looked at for the headers of a start. -/
theorem run_isSecluded (scripted : ScriptedStart) : scripted.run.IsSecluded := by
  have hprepare : (read scripted.prepare).IsSecluded := isSecluded_read fun t other h => by
    have hpropagator : other.propagator = t.propagator := congrArg Surroundings.propagator h
    simp only [prepare, hpropagator, Telemetry.active?_congr h]
  apply hprepare.bind
  intro start
  exact (isSecluded_start start).bind fun _ => trivial

theorem runAll_isSecluded (starts : List ScriptedStart) : (runAll starts).IsSecluded := by
  induction starts with
  | nil => trivial
  | cons first rest ih => exact (run_isSecluded first).bind fun _ => ih

end ScriptedStart

theorem ScriptedBody.follow_isSecluded (actions : List BodyAction) :
    (follow actions).IsSecluded := by
  induction actions with
  | nil => trivial
  | cons action rest ih =>
    cases action with
    | give item => trivial
    | start scripted =>
      apply scripted.run_isSecluded.bind
      intro outcome
      cases outcome with
      | none => exact ih
      | some failure => trivial

theorem ScriptState.report_isSecluded (body : ScriptedBody)
    {event : Option SpanContext → Event} (hreport : ∀ current, (event current).isReport = true) :
    (report body event).IsSecluded := by
  unfold report
  split
  · exact isSecluded_emit (fun t => hreport t.current?) fun t other h =>
      congrArg event (Telemetry.current?_congr h)
  · trivial

namespace Script

theorem follow_isSecluded (kept : Bool) (script : List ScriptAction) :
    (follow kept script).IsSecluded := by
  induction script generalizing kept with
  | nil => trivial
  | cons action rest ih =>
    cases action with
    | keep => exact ih true
    | fail failure => trivial
    | body body => trivial
    | start scripted =>
      apply scripted.run_isSecluded.bind
      intro outcome
      cases outcome with
      | none => exact ih kept
      | some failure => trivial

theorem application_isSecluded (request : String) (script : List ScriptAction) :
    (application request script).IsSecluded where
  call environ := by
    apply IsSecluded.bind (isSecluded_emit (fun _ => rfl) fun t other h =>
      congrArg (Event.application request) (Telemetry.current?_congr h))
    exact fun _ => follow_isSecluded false script
  next state := by
    apply (ScriptState.report_isSecluded state.body fun _ => rfl).bind
    intro _
    exact (ScriptedBody.follow_isSecluded state.body.actions).bind fun _ => trivial
  close state := by
    apply (ScriptState.report_isSecluded state.body fun _ => rfl).bind
    intro _
    exact (ScriptedStart.runAll_isSecluded state.body.onClose).bind fun _ => trivial
  drop state := by
    apply (ScriptState.report_isSecluded state.body fun _ => rfl).bind
    intro _
    exact (ScriptedStart.runAll_isSecluded state.body.onDrop).bind fun _ => trivial
  respond start state := (isSecluded_start start).bind fun _ => trivial

theorem application_onlyReports (request : String) (script : List ScriptAction) :
    (application request script).OnlyReports :=
  (application_isSecluded request script).onlyReports

end Script

/-- Whether a start has the headers that the script gives for it, and no others. -/
def ScriptedStart.IsPlain (scripted : ScriptedStart) : Prop :=
  scripted.inject = false

/-- Whether a body starts the response only in plain ways. -/
structure ScriptedBody.IsPlain (body : ScriptedBody) : Prop where
  actions : ∀ scripted, .start scripted ∈ body.actions → scripted.IsPlain
  onClose : ∀ scripted ∈ body.onClose, scripted.IsPlain
  onDrop : ∀ scripted ∈ body.onDrop, scripted.IsPlain

/-- Whether an action of a script, and the body that it gives, start the response only in plain
ways. -/
def ScriptAction.IsPlain : ScriptAction → Prop
  | .start scripted => scripted.IsPlain
  | .body given => given.IsPlain
  | _ => True

namespace ScriptedStart

theorem run_isBlind {scripted : ScriptedStart} (h : scripted.IsPlain) :
    scripted.run.IsBlind fun _ => True := by
  have hinject : scripted.inject = false := h
  intro t
  refine ⟨fun _ => trivial, fun other => ?_⟩
  simp [prepare, hinject]

theorem runAll_isBlind {starts : List ScriptedStart} (h : ∀ scripted ∈ starts, scripted.IsPlain) :
    (runAll starts).IsBlind fun _ => True := by
  induction starts with
  | nil => trivial
  | cons first rest ih =>
    obtain ⟨hfirst, hrest⟩ := List.forall_mem_cons.mp h
    exact (run_isBlind hfirst).bind fun _ _ => ih hrest

end ScriptedStart

theorem ScriptedBody.follow_isBlind {actions : List BodyAction}
    (h : ∀ scripted, .start scripted ∈ actions → scripted.IsPlain) :
    (follow actions).IsBlind fun (_, rest) =>
      ∀ scripted, .start scripted ∈ rest → scripted.IsPlain := by
  induction actions with
  | nil => exact h
  | cons action rest ih =>
    have hrest : ∀ scripted, .start scripted ∈ rest → scripted.IsPlain := fun scripted hmem =>
      h scripted (List.mem_cons_of_mem _ hmem)
    cases action with
    | give item => exact hrest
    | start scripted =>
      apply (ScriptedStart.run_isBlind (h scripted List.mem_cons_self)).bind
      intro outcome _
      cases outcome with
      | none => exact ih hrest
      | some failure => exact hrest

theorem ScriptState.report_isBlind (body : ScriptedBody) (event : Option SpanContext → Event) :
    (report body event).IsBlind fun _ => True := by
  unfold report
  split
  · exact fun _ => ⟨trivial, fun _ => rfl⟩
  · trivial

namespace Script

theorem follow_isBlind (kept : Bool) {script : List ScriptAction}
    (h : ∀ action ∈ script, action.IsPlain) :
    (follow kept script).IsBlind fun (_, state) => state.body.IsPlain := by
  have hempty : ScriptedBody.IsPlain {} := ⟨by simp, by simp, by simp⟩
  induction script generalizing kept with
  | nil => exact hempty
  | cons action rest ih =>
    obtain ⟨haction, hrest⟩ := List.forall_mem_cons.mp h
    cases action with
    | keep => exact ih true hrest
    | fail failure => exact hempty
    | body body => exact haction
    | start scripted =>
      apply (ScriptedStart.run_isBlind haction).bind
      intro outcome _
      cases outcome with
      | none => exact ih kept hrest
      | some failure => exact hempty

theorem application_isBlind (request : String) {script : List ScriptAction}
    (h : ∀ action ∈ script, action.IsPlain) :
    (application request script).IsBlind fun state => state.body.IsPlain where
  call environ := fun _ => ⟨follow_isBlind false h, fun _ => rfl⟩
  next {state} hstate := by
    apply (ScriptState.report_isBlind state.body (.bodyNext request)).bind
    intro _ _
    apply (ScriptedBody.follow_isBlind hstate.actions).bind
    exact fun (_, actions) hactions => ⟨hactions, hstate.onClose, hstate.onDrop⟩
  close {state} hstate := by
    apply (ScriptState.report_isBlind state.body (.bodyClose request)).bind
    intro _ _
    exact (ScriptedStart.runAll_isBlind hstate.onClose).bind fun _ _ => hstate
  drop {state} hstate := by
    apply (ScriptState.report_isBlind state.body fun _ => .bodyDrop request).bind
    intro _ _
    exact (ScriptedStart.runAll_isBlind hstate.onDrop).bind fun _ _ => hstate
  respond start {state} hstate := fun _ => hstate

/-- A script that starts the response in its call, in its body, and when the body is let go of. -/
def talkative : List ScriptAction :=
  [.start { start := { status := "200 OK" } }, .keep, .body
    { reports := true
      actions :=
        [.give (.ok (ByteArray.mk #[1, 2])), .start { start := { status := "201 Created" } },
          .give (.error "out of chunks")]
      onClose := [{ start := { status := "no code" } }]
      onDrop := [{ start := { status := "503 Down" }, ignoreFailure := true }] }]

theorem talkative_isPlain : ∀ action ∈ talkative, action.IsPlain := by
  unfold talkative
  simp only [List.forall_mem_cons, List.not_mem_nil, false_implies, implies_true, and_true]
  refine ⟨rfl, trivial, ?_, ?_, ?_⟩
  · simp [ScriptedStart.IsPlain]
  · simp [ScriptedStart.IsPlain]
  · simp [ScriptedStart.IsPlain]

end Script

end RequestTracing
