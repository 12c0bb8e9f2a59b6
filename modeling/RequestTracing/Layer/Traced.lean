import RequestTracing.Application.Contract
import RequestTracing.Layer.Request
/-!
Applications within layers. A traced application is an application again, so that layers may stand
around each other. The span of a request is current while its application or body runs; the request
ends when the application fails, or else with the first of: the end of the body, its failure, its
being closed, and its being dropped.
-/
namespace RequestTracing

/-- The state of a traced application. -/
structure Traced (σ : Type) where
  request : Request
  inner : σ
  /-- Whether the body is held, which is as long as the request lasts. -/
  isOpen : Bool

namespace Layer

variable {σ α : Type}

/-- Records every start of a response by a program, before it is passed on. -/
def instrument (layer : Layer) : Program α → Request → Program (α × Request)
  | .done a, request => .done (a, request)
  | .step change next, request => .step change fun t => instrument layer (next t) request
  | .respond start next, request =>
    .step (fun t => (layer.annotate start request t).2) fun t =>
      .respond start fun answer =>
        instrument layer (next answer) (layer.annotate start request t).1

def within (layer : Layer) (program : Program α) (request : Request) : Program (α × Request) := do
  Program.modify request.enter
  let result ← layer.instrument program request
  Program.modify request.leave
  return result

/-- Ends a request: closes and drops the body, ends the span and settles the metrics. -/
def finish (layer : Layer) (app : Application σ) (status : Option SpanStatus) (body : Traced σ) :
    Program (Traced σ) := do
  if body.isOpen then
    let (inner, request) ← layer.instrument (app.close body.inner >>= app.drop) body.request
    let request ← Program.act (layer.settle status request)
    return { request, inner, isOpen := false }
  else return body

/-- Handles a request. -/
def call (layer : Layer) (app : Application σ) (environ : Environ) :
    Program (Option Failure × Traced σ) := do
  let request ← Program.act (layer.begin environ)
  let ((failure?, inner), request) ← layer.within (app.call environ) request
  match failure? with
  | none => return (none, { request, inner, isOpen := true })
  | some failure =>
    let request ← Program.act (layer.fail failure request)
    return (some failure, { request, inner, isOpen := false })

def failedStatus (failure : Failure) (request : Request) (t : Telemetry) : Option SpanStatus :=
  if request.isRecording t then some (.error failure) else none

def next (layer : Layer) (app : Application σ) (body : Traced σ) : Program (Item × Traced σ) := do
  if body.isOpen then
    let ((item, inner), request) ← layer.within (app.next body.inner) body.request
    let body : Traced σ := { body with request, inner }
    match item with
    | some (.ok chunk) => return (some (.ok chunk), body)
    | some (.error failure) =>
      let status ← Program.read (failedStatus failure request)
      return (some (.error failure), ← layer.finish app status body)
    | none => return (none, ← layer.finish app none body)
  else return (none, body)

/-- The application within the layer. -/
def wrap (layer : Layer) (app : Application σ) : Application (Traced σ) where
  call := layer.call app
  next := layer.next app
  close := layer.finish app none
  drop := layer.finish app none
  keeps body := app.keeps body.inner
  respond start body := do
    let ((answer, inner), request) ←
      layer.instrument (app.respond start body.inner) body.request
    return (answer, { body with request, inner })

def Nested (σ : Type) : List Layer → Type
  | [] => σ
  | _ :: layers => Traced (Nested σ layers)

/-- The application within several layers, the outermost first. -/
def wrapAll : (layers : List Layer) → Application σ → Application (Nested σ layers)
  | [], app => app
  | layer :: layers, app => layer.wrap (wrapAll layers app)

end Layer

end RequestTracing
