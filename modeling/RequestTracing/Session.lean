import RequestTracing.Application.Script
import RequestTracing.Layer.Traced
/-!
Sessions: any number of requests driven through one layer, with their steps interleaved in any
order. A request stays known after its body is gone, for its application may have kept a way to
start the response.
-/
namespace RequestTracing

variable {σ : Type}

/-- One request of a session. -/
structure Exchange (σ : Type) where
  app : Application (Traced σ)
  state : Traced σ
  server : Server
  limit : Nat

structure Session (σ : Type) where
  telemetry : Telemetry := {}
  exchanges : List (Exchange σ) := []
  bodies : Dictionary Nat := .empty
  /-- The requests whose applications kept a way to start the response, by name. -/
  kept : Dictionary Nat := .empty

inductive SessionStep (σ : Type) where
  /-- Handles a request. If that succeeds, its body takes the place of another of the name, which is
  dropped. -/
  | call (app : Application (Traced σ)) (environ : Environ) (server : Server) (limit : Nat)
  | next (name : String)
  | drain (name : String)
  | close (name : String)
  | drop (name : String)
  | start (name : String) (scripted : ScriptedStart)

inductive StepResult where
  | nothing
  | missing
  | body
  | started
  | failed (failure : Failure)
  | item (item : Item)
  | items (items : List (Except Failure Chunk))

namespace Session

def body? (session : Session σ) (name : String) : Option (Nat × Exchange σ) :=
  (session.bodies.get? name).bind fun i => (session.exchanges[i]?).map (i, ·)

def isFinished? (session : Session σ) (name : String) : Option Bool :=
  (session.body? name).map fun (_, exchange) => !exchange.state.isOpen

def advance {α : Type} (session : Session σ) (i : Nat) (exchange : Exchange σ)
    (program : Program (α × Traced σ)) : α × Session σ :=
  let ((result, state), server, telemetry) := program.run exchange.server session.telemetry
  (result, { session with
    telemetry
    exchanges := session.exchanges.set i { exchange with state, server } })

def dropBody (session : Session σ) (i : Nat) : Session σ :=
  match session.exchanges[i]? with
  | some exchange =>
    (session.advance i exchange (do return ((), ← exchange.app.drop exchange.state))).2
  | none => session

def drainBody (app : Application (Traced σ)) :
    (limit : Nat) → Traced σ → Program (List (Except Failure Chunk) × Traced σ)
  | 0, state => return ([], state)
  | limit + 1, state => do
    match ← app.next state with
    | (none, state) => return ([], state)
    | (some item, state) =>
      let (items, state) ← drainBody app limit state
      return (item :: items, state)

def call (session : Session σ) (app : Application (Traced σ)) (environ : Environ)
    (server : Server) (limit : Nat) : StepResult × Session σ :=
  let ((failure?, state), server, telemetry) := (app.call environ).run server session.telemetry
  let i := session.exchanges.length
  let name := server.request
  let session := { session with
    telemetry
    exchanges := session.exchanges ++ [{ app, state, server, limit }]
    kept := if app.keeps state then session.kept.insert name i else session.kept }
  match failure? with
  | some failure => (.failed failure, session)
  | none =>
    let old := session.bodies.get? name
    let session := { session with bodies := session.bodies.insert name i }
    (.body, (old.map session.dropBody).getD session)

def step (session : Session σ) : SessionStep σ → StepResult × Session σ
  | .call app environ server limit => session.call app environ server limit
  | .next name =>
    match session.body? name with
    | some (i, exchange) =>
      let (item, session) := session.advance i exchange (exchange.app.next exchange.state)
      (.item item, session)
    | none => (.missing, session)
  | .drain name =>
    match session.body? name with
    | some (i, exchange) =>
      let (items, session) :=
        session.advance i exchange (drainBody exchange.app exchange.limit exchange.state)
      (.items items, session)
    | none => (.items [], session)
  | .close name =>
    match session.body? name with
    | some (i, exchange) =>
      (.nothing, (session.advance i exchange
        (do return ((), ← exchange.app.close exchange.state))).2)
    | none => (.nothing, session)
  | .drop name =>
    match session.bodies.get? name with
    | some i => (.nothing, { session with bodies := session.bodies.erase name }.dropBody i)
    | none => (.nothing, session)
  | .start name scripted =>
    match (session.kept.get? name).bind fun i => (session.exchanges[i]?).map (i, ·) with
    | some (i, exchange) =>
      let (answer, session) := session.advance i exchange (do
        exchange.app.respond (← Program.read scripted.prepare) exchange.state)
      ((scripted.outcome answer).elim .started .failed, session)
    | none => (.missing, session)

def finish (session : Session σ) : Session σ :=
  session.bodies.entries.foldl (fun session (_, i) => session.dropBody i) session

end Session

end RequestTracing
