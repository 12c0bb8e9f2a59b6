import RequestTracing.Application.Contract
/-!
Requests in service: an application is called for a request, and then uses are made of what it has
left behind, one after the other.
-/
namespace RequestTracing

/-- What can be done with a request once its application was called. -/
inductive Use where
  | next
  | close
  | drop
  | respond (start : ResponseStart)

inductive Outcome where
  | item (item : Item)
  | nothing
  | answer (failure : Option Failure)

/-- Whether nothing more is asked of a body after a use. -/
def Use.isLast : Use → Outcome → Bool
  | .next, .item (some (.ok _)) => false
  | .respond _, _ => false
  | _, _ => true

/-- What has come of a request. -/
structure Service (σ : Type) where
  /-- The failure of the application, if it failed. -/
  failure : Option Failure
  outcomes : List Outcome
  state : σ
  server : Server
  telemetry : Telemetry

namespace Service

variable {σ : Type}

def isOver (service : Service σ) (uses : List Use) : Bool :=
  service.failure.isSome ||
    (uses.zip service.outcomes).any fun (use, outcome) => use.isLast outcome

end Service

namespace Application

variable {σ : Type}

def use (app : Application σ) (use : Use) (state : σ) : Program (Outcome × σ) :=
  match use with
  | .next => do
    let (item, state) ← app.next state
    return (.item item, state)
  | .close => do
    let state ← app.close state
    return (.nothing, state)
  | .drop => do
    let state ← app.drop state
    return (.nothing, state)
  | .respond start => do
    let (answer, state) ← app.respond start state
    return (.answer answer, state)

def useAll (app : Application σ) : List Use → σ → Program (List Outcome × σ)
  | [], state => return ([], state)
  | use :: uses, state => do
    let (outcome, state) ← app.use use state
    let (outcomes, state) ← app.useAll uses state
    return (outcome :: outcomes, state)

/-- Calls the application for a request of a server and makes uses of the request. -/
def serve (app : Application σ) (environ : Environ) (uses : List Use) (server : Server)
    (t : Telemetry) : Service σ :=
  let ((failure, state), server, t) := (app.call environ).run server t
  let ((outcomes, state), server, t) := (app.useAll uses state).run server t
  { failure, outcomes, state, server, telemetry := t }

end Application

end RequestTracing
