import RequestTracing.Proofs.Program.Run
import RequestTracing.Session
/-!
Sessions as turns, one after the other, in each of which one request is handled or used once. Every
step of a session, and its end, comes to some turns.
-/
namespace RequestTracing

variable {σ : Type}

/-- What happens to one of the requests of a session at a time. -/
inductive Turn (σ : Type) where
  | call (app : Application (Traced σ)) (environ : Environ) (server : Server) (limit : Nat)
  | use (i : Nat) (use : Use)

/-- A session without the names of its requests. -/
structure Traffic (σ : Type) where
  telemetry : Telemetry := {}
  exchanges : List (Exchange σ) := []

def Session.traffic (session : Session σ) : Traffic σ :=
  { telemetry := session.telemetry, exchanges := session.exchanges }

namespace Traffic

def advance {α : Type} (traffic : Traffic σ) (i : Nat) (exchange : Exchange σ)
    (program : Program (α × Traced σ)) : Traffic σ :=
  let ((_, state), server, telemetry) := program.run exchange.server traffic.telemetry
  { telemetry, exchanges := traffic.exchanges.set i { exchange with state, server } }

def turn (traffic : Traffic σ) : Turn σ → Traffic σ
  | .call app environ server limit =>
    let ((_, state), server, telemetry) := (app.call environ).run server traffic.telemetry
    { telemetry, exchanges := traffic.exchanges ++ [{ app, state, server, limit }] }
  | .use i use =>
    match traffic.exchanges[i]? with
    | some exchange => traffic.advance i exchange (exchange.app.use use exchange.state)
    | none => traffic

def turnAll (traffic : Traffic σ) (turns : List (Turn σ)) : Traffic σ :=
  turns.foldl turn traffic

@[simp] theorem turnAll_nil (traffic : Traffic σ) : traffic.turnAll [] = traffic := rfl

@[simp] theorem turnAll_cons (traffic : Traffic σ) (turn : Turn σ) (turns : List (Turn σ)) :
    traffic.turnAll (turn :: turns) = (traffic.turn turn).turnAll turns := rfl

theorem turnAll_append (traffic : Traffic σ) (turns others : List (Turn σ)) :
    traffic.turnAll (turns ++ others) = (traffic.turnAll turns).turnAll others := by
  simp [turnAll]

def owner (traffic : Traffic σ) : Turn σ → Nat
  | .call _ _ _ _ => traffic.exchanges.length
  | .use i _ => i

def turnEvents (traffic : Traffic σ) (turn : Turn σ) : List (Nat × Event) :=
  ((traffic.turn turn).telemetry.events.drop traffic.telemetry.events.length).map
    (traffic.owner turn, ·)

/-- The events of some turns, each with the request to which it belongs. -/
def history (traffic : Traffic σ) : List (Turn σ) → List (Nat × Event)
  | [] => []
  | turn :: turns => traffic.turnEvents turn ++ (traffic.turn turn).history turns

section Use

variable (traffic : Traffic σ) {i : Nat}

theorem turn_use {exchange : Exchange σ} (h : traffic.exchanges[i]? = some exchange) (use : Use) :
    traffic.turn (.use i use) =
      traffic.advance i exchange (exchange.app.use use exchange.state) := by
  simp only [turn, h]

theorem turn_use_of_none (h : traffic.exchanges[i]? = none) (use : Use) :
    traffic.turn (.use i use) = traffic := by
  simp only [turn, h]

/-- Only the new state of the request, its server and the shared state matter of a run. -/
theorem advance_congr {α β : Type} {exchange : Exchange σ} {program : Program (α × Traced σ)}
    {other : Program (β × Traced σ)}
    (hstate : (program.run exchange.server traffic.telemetry).1.2 =
      (other.run exchange.server traffic.telemetry).1.2)
    (hrest : (program.run exchange.server traffic.telemetry).2 =
      (other.run exchange.server traffic.telemetry).2) :
    traffic.advance i exchange program = traffic.advance i exchange other := by
  simp only [advance, hstate, hrest]

theorem turnAll_uses {exchange : Exchange σ} (h : traffic.exchanges[i]? = some exchange)
    (uses : List Use) :
    traffic.turnAll (uses.map (.use i)) =
      traffic.advance i exchange (exchange.app.useAll uses exchange.state) := by
  induction uses generalizing traffic exchange with
  | nil =>
    have hsame : traffic.exchanges.set i exchange = traffic.exchanges := by
      obtain ⟨hi, rfl⟩ := List.getElem?_eq_some_iff.mp h
      exact List.set_getElem_self hi
    simp [advance, Application.useAll, hsame]
  | cons use uses ih =>
    obtain ⟨hi, _⟩ := List.getElem?_eq_some_iff.mp h
    have hused := traffic.turn_use h use
    have hnext : (traffic.turn (.use i use)).exchanges[i]? = some
        { exchange with
          state := ((exchange.app.use use exchange.state).run exchange.server
            traffic.telemetry).1.2
          server := ((exchange.app.use use exchange.state).run exchange.server
            traffic.telemetry).2.1 } := by
      rw [hused]
      exact List.getElem?_set_self hi
    rw [List.map_cons, turnAll_cons, ih _ hnext, hused]
    simp [advance, Application.useAll]

end Use

end Traffic

/-- One request, with all that is done with it. -/
structure Lane (σ : Type) where
  app : Application (Traced σ)
  environ : Environ
  server : Server
  uses : List Use := []

namespace Lane

/-- What comes of a request when it is served alone. -/
def alone (lane : Lane σ) (t : Telemetry) : Service (Traced σ) :=
  lane.app.serve lane.environ lane.uses lane.server t

def note (lanes : List (Lane σ)) : Turn σ → List (Lane σ)
  | .call app environ server _ => lanes ++ [{ app, environ, server }]
  | .use i use => lanes.modify i fun lane => { lane with uses := lane.uses ++ [use] }

def ofTurns (turns : List (Turn σ)) : List (Lane σ) :=
  turns.foldl note []

end Lane

namespace Session

/-- Whether a session has come from another by some turns, in which requests are handled only as in
some steps. -/
def ComesOf (before : Session σ) (steps : List (SessionStep σ)) (after : Session σ) : Prop :=
  ∃ turns, after.traffic = before.traffic.turnAll turns ∧
    ∀ app environ server limit, .call app environ server limit ∈ turns →
      .call app environ server limit ∈ steps

theorem ComesOf.trans {session middle last : Session σ} {steps more : List (SessionStep σ)}
    (h : session.ComesOf steps middle) (hmore : middle.ComesOf more last) :
    session.ComesOf (steps ++ more) last := by
  obtain ⟨turns, hturns, hcalls⟩ := h
  obtain ⟨others, hothers, hmoreCalls⟩ := hmore
  refine ⟨turns ++ others, ?_, fun app environ server limit hmem => ?_⟩
  · rw [hothers, hturns, Traffic.turnAll_append]
  · rcases List.mem_append.mp hmem with hmem | hmem
    · exact List.mem_append_left _ (hcalls _ _ _ _ hmem)
    · exact List.mem_append_right _ (hmoreCalls _ _ _ _ hmem)

theorem ComesOf.refl (session : Session σ) (steps : List (SessionStep σ)) :
    session.ComesOf steps session :=
  ⟨[], rfl, by simp⟩

/-- A run for one request comes to some turns if it is like some uses of the request. -/
theorem ComesOf.advance {α : Type} {session : Session σ} {steps : List (SessionStep σ)} {i : Nat}
    {exchange : Exchange σ} {program : Program (α × Traced σ)}
    (h : session.exchanges[i]? = some exchange) (uses : List Use)
    (hstate : (program.run exchange.server session.telemetry).1.2 =
      ((exchange.app.useAll uses exchange.state).run exchange.server session.telemetry).1.2)
    (hrest : (program.run exchange.server session.telemetry).2 =
      ((exchange.app.useAll uses exchange.state).run exchange.server session.telemetry).2) :
    session.ComesOf steps (session.advance i exchange program).2 := by
  refine ⟨uses.map (.use i), ?_, by simp⟩
  rw [session.traffic.turnAll_uses h uses]
  exact session.traffic.advance_congr hstate hrest

theorem dropBody_traffic (session : Session σ) (i : Nat) :
    (session.dropBody i).traffic = session.traffic.turn (.use i .drop) := by
  unfold dropBody
  cases hfound : session.exchanges[i]? with
  | none => exact (session.traffic.turn_use_of_none hfound .drop).symm
  | some exchange =>
    rw [session.traffic.turn_use hfound .drop]
    exact session.traffic.advance_congr (by simp [Application.use]) (by simp [Application.use])

/-- A request that is known under a name is one of the requests of the session. -/
theorem exchanges_of_name {session : Session σ} {known : Option Nat} {found : Nat × Exchange σ}
    (h : (known.bind fun i => (session.exchanges[i]?).map (i, ·)) = some found) :
    session.exchanges[found.1]? = some found.2 := by
  obtain ⟨i, _, hfound⟩ := Option.bind_eq_some_iff.mp h
  obtain ⟨exchange, hexchange, rfl⟩ := Option.map_eq_some_iff.mp hfound
  exact hexchange

/-- Asking a body for chunks until its end is asking it for some number of chunks. -/
theorem run_drainBody (app : Application (Traced σ)) (limit : Nat) (state : Traced σ)
    (server : Server) (t : Telemetry) :
    ∃ uses, ((drainBody app limit state).run server t).1.2 =
        ((app.useAll uses state).run server t).1.2 ∧
      ((drainBody app limit state).run server t).2 = ((app.useAll uses state).run server t).2 := by
  induction limit generalizing state server t with
  | zero => exact ⟨[], rfl, rfl⟩
  | succ limit ih =>
    rcases hasked : (app.next state).run server t with ⟨⟨item, after⟩, next, later⟩
    cases item with
    | none =>
      refine ⟨[.next], ?_, ?_⟩ <;>
        simp [drainBody, Application.useAll, Application.use, hasked]
    | some item =>
      obtain ⟨uses, hstate, hrest⟩ := ih after next later
      refine ⟨.next :: uses, ?_, ?_⟩ <;>
        simp [drainBody, Application.useAll, Application.use, hasked, hstate, hrest]

theorem call_comesOf (session : Session σ) (app : Application (Traced σ)) (environ : Environ)
    (server : Server) (limit : Nat) :
    session.ComesOf [.call app environ server limit]
      (session.call app environ server limit).2 := by
  rcases hrun : (app.call environ).run server session.telemetry with
    ⟨⟨failure?, state⟩, after, telemetry⟩
  have hturn : session.traffic.turn (.call app environ server limit) =
      { telemetry
        exchanges := session.exchanges ++ [{ app, state, server := after, limit }] } := by
    simp [Traffic.turn, traffic, hrun]
  cases failure? with
  | some failure =>
    refine ⟨[.call app environ server limit], ?_, by simp⟩
    rw [Traffic.turnAll_cons, hturn]
    simp [call, hrun, traffic]
  | none =>
    cases hold : session.bodies.get? after.request with
    | none =>
      refine ⟨[.call app environ server limit], ?_, by simp⟩
      rw [Traffic.turnAll_cons, hturn]
      simp [call, hrun, traffic, hold]
    | some i =>
      refine ⟨[.call app environ server limit, .use i .drop], ?_, by simp⟩
      rw [Traffic.turnAll_cons, hturn]
      simp only [call, hrun, hold, Option.map_some, Option.getD_some, dropBody_traffic]
      rfl

theorem step_comesOf (session : Session σ) (step : SessionStep σ) :
    session.ComesOf [step] (session.step step).2 := by
  cases step with
  | call app environ server limit => exact session.call_comesOf app environ server limit
  | next name =>
    simp only [Session.step]
    cases hbody : session.body? name with
    | none => exact .refl session _
    | some found =>
      apply ComesOf.advance (exchanges_of_name hbody) [.next] <;>
        simp [Application.useAll, Application.use]
  | drain name =>
    simp only [Session.step]
    cases hbody : session.body? name with
    | none => exact .refl session _
    | some found =>
      obtain ⟨uses, hstate, hrest⟩ := run_drainBody found.2.app found.2.limit found.2.state
        found.2.server session.telemetry
      exact .advance (exchanges_of_name hbody) uses hstate hrest
  | close name =>
    simp only [Session.step]
    cases hbody : session.body? name with
    | none => exact .refl session _
    | some found =>
      apply ComesOf.advance (exchanges_of_name hbody) [.close] <;>
        simp [Application.useAll, Application.use]
  | drop name =>
    simp only [Session.step]
    cases session.bodies.get? name with
    | none => exact .refl session _
    | some i => exact ⟨[.use i .drop], dropBody_traffic _ i, by simp⟩
  | start name scripted =>
    simp only [Session.step]
    cases hkept : (session.kept.get? name).bind fun i =>
        (session.exchanges[i]?).map (i, ·) with
    | none => exact .refl session _
    | some found =>
      apply ComesOf.advance (exchanges_of_name hkept)
        [.respond (scripted.prepare session.telemetry)] <;>
        simp [Application.useAll, Application.use]

/-- Sessions come to turns: whatever steps are made, in whatever order, and at the end. -/
theorem run_comesOf (session : Session σ) (steps : List (SessionStep σ)) :
    let last := steps.foldl (fun session step => (session.step step).2) session
    session.ComesOf steps last ∧ session.ComesOf steps last.finish := by
  intro last
  have hlast : session.ComesOf steps last := by
    induction steps generalizing session with
    | nil => exact .refl session _
    | cons step steps ih => exact (session.step_comesOf step).trans (ih (session.step step).2)
  have hfinish (entries : List (String × Nat)) (first : Session σ) :
      first.ComesOf [] (entries.foldl (fun session entry => session.dropBody entry.2) first) := by
    induction entries generalizing first with
    | nil => exact .refl first _
    | cons entry entries ih =>
      have hdrop : first.ComesOf [] (first.dropBody entry.2) :=
        ⟨[.use entry.2 .drop], first.dropBody_traffic entry.2, by simp⟩
      exact hdrop.trans (ih _)
  refine ⟨hlast, ?_⟩
  have hall := hlast.trans (hfinish last.bodies.entries last)
  rw [List.append_nil] at hall
  exact hall

end Session

end RequestTracing
