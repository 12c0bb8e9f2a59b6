import RequestTracing.Application.Program
import RequestTracing.Environ
/-!
The contract of applications. An application is called once for a request and leaves a state behind:
the body of its response, and whatever else it needs when it is called back.
-/
namespace RequestTracing

structure Application (σ : Type) where
  call : Environ → Program (Option Failure × σ)
  next : σ → Program (Item × σ)
  /-- Tells the body that no more chunks will be asked for. -/
  close : σ → Program σ
  drop : σ → Program σ
  /-- Whether a way to start the response was kept for use outside of calls and bodies. -/
  keeps : σ → Bool := fun _ => false
  respond : ResponseStart → σ → Program (Option Failure × σ) := fun start state => do
    let answer ← Program.start start
    return (answer, state)

end RequestTracing
