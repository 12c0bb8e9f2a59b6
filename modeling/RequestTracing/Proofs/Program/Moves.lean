import RequestTracing.Proofs.Program.Run
/-!
What a program does, one move after the other. A program that only reports starts responses and adds
events of its own, and does nothing else to the state that all requests share.
-/
namespace RequestTracing

/-- Whether an event tells of an application, and not of the layers around it or of the server. -/
def Event.isReport : Event → Bool
  | .application _ _ | .bodyNext _ _ | .bodyClose _ _ | .bodyDrop _ => true
  | _ => false

/-- What a program does at a time. -/
inductive Move where
  | report (events : List Event)
  | respond (start : ResponseStart)

namespace Move

/-- Whether a move reports nothing but what an application may report. -/
def IsOwn : Move → Prop
  | .report events => ∀ event ∈ events, event.isReport = true
  | .respond _ => True

def starts (moves : List Move) : List ResponseStart :=
  moves.filterMap fun
    | .respond start => some start
    | .report _ => none

@[simp] theorem starts_nil : starts [] = [] := rfl

@[simp] theorem starts_report (events : List Event) (moves : List Move) :
    starts (.report events :: moves) = starts moves := rfl

@[simp] theorem starts_respond (start : ResponseStart) (moves : List Move) :
    starts (.respond start :: moves) = start :: starts moves := rfl

end Move

namespace Telemetry

theorem emitAll_eq (t : Telemetry) (events : List Event) :
    t.emitAll events = { t with events := t.events ++ events } := by
  induction events generalizing t with
  | nil => simp [emitAll]
  | cons event events ih =>
    have h : t.emitAll (event :: events) = (t.emit event).emitAll events := rfl
    rw [h, ih]
    simp [emit]

theorem emitAll_singleton (t : Telemetry) (event : Event) : t.emitAll [event] = t.emit event := rfl

@[simp] theorem emit_events (t : Telemetry) (event : Event) :
    (t.emit event).events = t.events ++ [event] := rfl

@[simp] theorem emitAll_events (t : Telemetry) (events : List Event) :
    (t.emitAll events).events = t.events ++ events := by rw [emitAll_eq]

@[simp] theorem emitAll_recording (t : Telemetry) (events : List Event) :
    (t.emitAll events).recording = t.recording := by rw [emitAll_eq]

theorem emitAll_emitAll (t : Telemetry) (events others : List Event) :
    (t.emitAll events).emitAll others = t.emitAll (events ++ others) := by
  simp [emitAll_eq]

theorem emitAll_inj {t : Telemetry} {events others : List Event}
    (h : t.emitAll events = t.emitAll others) : events = others := by
  have hevents := congrArg Telemetry.events h
  simpa using hevents

end Telemetry

namespace Program

variable {α β : Type}

/-- Whether a program, besides starting responses, only adds events of its own. What it does may
depend on all that it sees. -/
def OnlyReports : Program α → Prop
  | .done _ => True
  | .respond _ next => ∀ answer, (next answer).OnlyReports
  | .step change next => ∀ t,
    (∃ events : List Event, (∀ event ∈ events, event.isReport = true) ∧
      change t = t.emitAll events) ∧ (next t).OnlyReports

/-- The moves that a program can make, and what it comes to with them. -/
inductive Makes : Program α → List Move → α → Prop
  | done (a : α) : Makes (.done a) [] a
  | respond {start : ResponseStart} {next : Option Failure → Program α} {answer : Option Failure}
      {moves : List Move} {a : α} (rest : Makes (next answer) moves a) :
      Makes (.respond start next) (.respond start :: moves) a
  | step {change : Telemetry → Telemetry} {next : Telemetry → Program α} {t : Telemetry}
      {events : List Event} {moves : List Move} {a : α} (adds : change t = t.emitAll events)
      (rest : Makes (next t) moves a) :
      Makes (.step change next) (.report events :: moves) a

theorem OnlyReports.bind {p : Program α} {f : α → Program β} (hp : p.OnlyReports)
    (hf : ∀ a, (f a).OnlyReports) : (p.bind f).OnlyReports := by
  induction p with
  | done a => exact hf a
  | respond start next ih => exact fun answer => ih answer (hp answer)
  | step change next ih => exact fun t => ⟨(hp t).1, ih t (hp t).2⟩

/-- The moves of one program after another are those of the one and then those of the other. -/
theorem Makes.of_bind {p : Program α} {f : α → Program β} {moves : List Move} {b : β}
    (h : (p.bind f).Makes moves b) :
    ∃ first second a, moves = first ++ second ∧ p.Makes first a ∧ (f a).Makes second b := by
  induction p generalizing moves with
  | done a => exact ⟨[], moves, a, rfl, .done a, h⟩
  | respond start next ih =>
    cases h with
    | respond rest =>
      obtain ⟨first, second, a, rfl, hfirst, hsecond⟩ := ih _ rest
      exact ⟨.respond start :: first, second, a, rfl, .respond hfirst, hsecond⟩
  | step change next ih =>
    cases h with
    | step adds rest =>
      obtain ⟨first, second, a, rfl, hfirst, hsecond⟩ := ih _ rest
      exact ⟨_ :: first, second, a, rfl, .step adds hfirst, hsecond⟩

theorem Makes.isOwn {p : Program α} {moves : List Move} {a : α} (h : p.Makes moves a)
    (hp : p.OnlyReports) : ∀ move ∈ moves, move.IsOwn := by
  induction h with
  | done a => simp
  | respond rest ih => exact List.forall_mem_cons.mpr ⟨trivial, ih (hp _)⟩
  | @step change next t events moves a adds rest ih =>
    obtain ⟨⟨others, hothers, hchange⟩, hnext⟩ := hp t
    have heq := Telemetry.emitAll_inj (adds.symm.trans hchange)
    subst heq
    exact List.forall_mem_cons.mpr ⟨hothers, ih hnext⟩

end Program

/-- Whether an application, besides starting responses, only adds events of its own. -/
structure Application.OnlyReports {σ : Type} (app : Application σ) : Prop where
  call : ∀ environ, (app.call environ).OnlyReports
  next : ∀ state, (app.next state).OnlyReports
  close : ∀ state, (app.close state).OnlyReports
  drop : ∀ state, (app.drop state).OnlyReports
  respond : ∀ start state, (app.respond start state).OnlyReports

end RequestTracing
