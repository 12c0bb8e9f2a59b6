import RequestTracing.Application.Contract
/-!
Applications that follow a script: a list of actions for the call, and another for each way in which
the body of the response is used.
-/
namespace RequestTracing

structure ScriptedStart where
  start : ResponseStart
  inject : Bool := false
  ignoreFailure : Bool := false
  deriving DecidableEq, Repr

namespace ScriptedStart

def prepare (scripted : ScriptedStart) (t : Telemetry) : ResponseStart :=
  if scripted.inject then
    { scripted.start with
      headers := scripted.start.headers ++ t.propagator.inject (t.active?.getD .invalid) }
  else scripted.start

def outcome (scripted : ScriptedStart) (answer : Option Failure) : Option Failure :=
  if scripted.ignoreFailure then none else answer

def run (scripted : ScriptedStart) : Program (Option Failure) := do
  let answer ← Program.start (← Program.read scripted.prepare)
  return scripted.outcome answer

def runAll : List ScriptedStart → Program Unit
  | [] => return ()
  | first :: rest => do
    let _ ← first.run
    runAll rest

end ScriptedStart

inductive BodyAction where
  /-- Starts the response and goes on, unless that fails. -/
  | start (scripted : ScriptedStart)
  | give (item : Except Failure Chunk)

structure ScriptedBody where
  reports : Bool := false
  actions : List BodyAction := []
  onClose : List ScriptedStart := []
  onDrop : List ScriptedStart := []

/-- What an application does when it is called. -/
inductive ScriptAction where
  | start (scripted : ScriptedStart)
  | keep
  | fail (failure : Failure)
  | body (body : ScriptedBody)

structure ScriptState where
  kept : Bool := false
  body : ScriptedBody := {}

namespace ScriptedBody

def ofItems (items : List (Except Failure Chunk)) : ScriptedBody :=
  { actions := items.map .give }

def follow : List BodyAction → Program (Item × List BodyAction)
  | [] => return (none, [])
  | .give item :: rest => return (some item, rest)
  | .start scripted :: rest => do
    match ← scripted.run with
    | some failure => return (some (.error failure), rest)
    | none => follow rest

end ScriptedBody

namespace ScriptState

def report (body : ScriptedBody) (event : Option SpanContext → Event) : Program Unit :=
  if body.reports then Program.modify fun t => t.emit (event t.current?) else return ()

end ScriptState

namespace Script

/-- Follows a script up to the action that ends the call; a script without one ends with an empty
body. -/
def follow (kept : Bool) : List ScriptAction → Program (Option Failure × ScriptState)
  | [] => return (none, { kept })
  | .keep :: rest => follow true rest
  | .fail failure :: _ => return (some failure, { kept })
  | .body body :: _ => return (none, { kept, body })
  | .start scripted :: rest => do
    match ← scripted.run with
    | some failure => return (some failure, { kept })
    | none => follow kept rest

def application (request : String) (script : List ScriptAction) : Application ScriptState where
  call _ := do
    Program.modify fun t => t.emit (.application request t.current?)
    follow false script
  next state := do
    ScriptState.report state.body (.bodyNext request)
    let (item, actions) ← ScriptedBody.follow state.body.actions
    return (item, { state with body := { state.body with actions } })
  close state := do
    ScriptState.report state.body (.bodyClose request)
    ScriptedStart.runAll state.body.onClose
    return state
  drop state := do
    ScriptState.report state.body fun _ => .bodyDrop request
    ScriptedStart.runAll state.body.onDrop
    return state
  keeps state := state.kept

/-- More than the number of items that the body of a script can give. -/
def limit (script : List ScriptAction) : Nat :=
  (script.map fun
    | .body body => body.actions.length
    | _ => 0).foldl (· + ·) 1

end Script

end RequestTracing
