import RequestTracing.Telemetry
/-!
What the code of an application does when it runs, as far as anyone can tell: it starts responses
and goes on with the server's answer, and it uses the state that all requests share.
-/
namespace RequestTracing

inductive Program (α : Type) where
  | done (result : α)
  /-- Starts a response and goes on with the failure of the server, if there is one. -/
  | respond (start : ResponseStart) (next : Option Failure → Program α)
  | step (change : Telemetry → Telemetry) (next : Telemetry → Program α)

namespace Program

variable {α β : Type}

instance [Inhabited α] : Inhabited (Program α) := ⟨.done default⟩

def bind : Program α → (α → Program β) → Program β
  | .done a, f => f a
  | .respond start next, f => .respond start fun answer => (next answer).bind f
  | .step change next, f => .step change fun t => (next t).bind f

instance : Monad Program where
  pure := .done
  bind := bind

def start (start : ResponseStart) : Program (Option Failure) :=
  .respond start .done

def act (action : Telemetry → α × Telemetry) : Program α :=
  .step (fun t => (action t).2) fun t => .done (action t).1

def read (view : Telemetry → α) : Program α :=
  .step id fun t => .done (view t)

def modify (change : Telemetry → Telemetry) : Program Unit :=
  .step change fun _ => .done ()

def emit (event : Event) : Program Unit :=
  modify (·.emit event)

end Program

/-- The server's side of one request. -/
structure Server where
  request : String
  /-- The failure with which the last of some starts is met, if any. -/
  answer : List ResponseStart → Option Failure := fun _ => none
  seen : List ResponseStart := []

namespace Server

instance : Inhabited Server := ⟨{ request := "" }⟩

/-- The server whose answers are listed; it accepts all later starts. -/
def ofAnswers (request : String) (answers : List (Option Failure)) : Server :=
  { request, answer := fun seen => (answers[seen.length - 1]?).join }

def receive (server : Server) (start : ResponseStart) : Option Failure × Server :=
  let seen := server.seen ++ [start]
  (server.answer seen, { server with seen })

end Server

namespace Program

variable {α : Type}

def run : Program α → Server → Telemetry → α × Server × Telemetry
  | .done a, server, t => (a, server, t)
  | .respond start next, server, t =>
    let (answer, server) := server.receive start
    (next answer).run server (t.emit (.server server.request start))
  | .step change next, server, t => (next t).run server (change t)

end Program

end RequestTracing
