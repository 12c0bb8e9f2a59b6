import RequestTracing.Application.Service
/-!
The laws by which programs are put together, and what a run makes of each way to do so.
-/
namespace RequestTracing

namespace Program

variable {α β : Type}

@[simp] theorem pure_eq_done (a : α) : (pure a : Program α) = .done a := rfl

@[simp] theorem bind_eq (p : Program α) (f : α → Program β) : p >>= f = p.bind f := rfl

@[simp] theorem done_bind (a : α) (f : α → Program β) : (done a).bind f = f a := rfl

@[simp] theorem respond_bind (start : ResponseStart) (next : Option Failure → Program α)
    (f : α → Program β) :
    (respond start next).bind f = .respond start fun answer => (next answer).bind f := rfl

@[simp] theorem step_bind (change : Telemetry → Telemetry) (next : Telemetry → Program α)
    (f : α → Program β) : (step change next).bind f = .step change fun t => (next t).bind f := rfl

theorem bind_done (p : Program α) : p.bind .done = p := by
  induction p with
  | done a => rfl
  | respond start next ih => simp only [respond_bind, ih]
  | step change next ih => simp only [step_bind, ih]

section Run

variable (server : Server) (t : Telemetry)

@[simp] theorem run_done (a : α) : (done a).run server t = (a, server, t) := rfl

@[simp] theorem run_respond (start : ResponseStart) (next : Option Failure → Program α) :
    (respond start next).run server t =
      (next (server.receive start).1).run (server.receive start).2
        (t.emit (.server server.request start)) := rfl

@[simp] theorem run_step (change : Telemetry → Telemetry) (next : Telemetry → Program α) :
    (step change next).run server t = (next t).run server (change t) := rfl

@[simp] theorem run_bind (p : Program α) (f : α → Program β) :
    (p.bind f).run server t =
      (f (p.run server t).1).run (p.run server t).2.1 (p.run server t).2.2 := by
  induction p generalizing server t with
  | done a => rfl
  | respond start next ih => simp only [respond_bind, run_respond, ih]
  | step change next ih => simp only [step_bind, run_step, ih]

@[simp] theorem run_modify (change : Telemetry → Telemetry) :
    (modify change).run server t = ((), server, change t) := rfl

@[simp] theorem run_act (action : Telemetry → α × Telemetry) :
    (act action).run server t = ((action t).1, server, (action t).2) := rfl

@[simp] theorem run_read (view : Telemetry → α) :
    (read view).run server t = (view t, server, t) := rfl

end Run

end Program

namespace Server

@[simp] theorem receive_seen (server : Server) (start : ResponseStart) :
    (server.receive start).2.seen = server.seen ++ [start] := rfl

@[simp] theorem receive_request (server : Server) (start : ResponseStart) :
    (server.receive start).2.request = server.request := rfl

end Server

end RequestTracing
