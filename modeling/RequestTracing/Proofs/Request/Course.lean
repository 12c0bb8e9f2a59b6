import RequestTracing.Layer.Traced
import RequestTracing.Proofs.Program.Moves
/-!
The course of one request through a layer. Whatever an application does and whatever is done with
its body, the request passes through stages of a few kinds; the story of an application says which
stages can follow each other.
-/
namespace RequestTracing

/-- Where a request stands: what its layer holds of it, its server, and the state around it. -/
structure Course where
  request : Request
  server : Server
  telemetry : Telemetry

/-- What a program with some outcome has come to at the end of a course. -/
def Course.result {α : Type} (course : Course) (a : α) : (α × Request) × Server × Telemetry :=
  ((a, course.request), course.server, course.telemetry)

/-- A part of what happens to a request. -/
inductive Stage where
  /-- The application or its body runs with the span of the request current. -/
  | work (moves : List Move)
  | aside (moves : List Move)
  | fail (failure : Failure)
  /-- The body is closed and dropped, and the request is settled. The cause is the failure of the
  body, if it failed. -/
  | finish (closing dropping : List Move) (cause : Option Failure)

def Stage.failure? : Stage → Option Failure
  | .fail failure => some failure
  | .finish _ _ cause => cause
  | _ => none

def Outcome.failure? : Outcome → Option Failure
  | .item (some (.error failure)) => some failure
  | _ => none

def Service.failures {σ : Type} (service : Service σ) : List Failure :=
  service.failure.toList ++ service.outcomes.filterMap Outcome.failure?

namespace Layer

variable {σ α : Type} (layer : Layer)

/-- The course of a request after a move within its layer. -/
def move (course : Course) : Move → Course
  | .report events => { course with telemetry := course.telemetry.emitAll events }
  | .respond start =>
    { request := (layer.annotate start course.request course.telemetry).1
      server := (course.server.receive start).2
      telemetry := (layer.annotate start course.request course.telemetry).2.emit
        (.server course.server.request start) }

def moveAll (course : Course) (moves : List Move) : Course :=
  moves.foldl layer.move course

@[simp] theorem moveAll_nil (course : Course) : layer.moveAll course [] = course := rfl

@[simp] theorem moveAll_cons (course : Course) (move : Move) (moves : List Move) :
    layer.moveAll course (move :: moves) = layer.moveAll (layer.move course move) moves := rfl

theorem moveAll_append (course : Course) (first second : List Move) :
    layer.moveAll course (first ++ second) = layer.moveAll (layer.moveAll course first) second := by
  simp [moveAll]

def enter (course : Course) : Course :=
  { course with telemetry := course.request.enter course.telemetry }

/-- The course of a request after its end. -/
def conclude (status : Option SpanStatus) (course : Course) : Course :=
  { course with
    request := (layer.settle status course.request course.telemetry).1
    telemetry := (layer.settle status course.request course.telemetry).2 }

/-- The course of a request after a stage. -/
def pass (course : Course) : Stage → Course
  | .work moves =>
    let last := layer.moveAll (enter course) moves
    { last with telemetry := course.request.leave last.telemetry }
  | .aside moves => layer.moveAll course moves
  | .fail failure =>
    layer.conclude (some (.error failure))
      { course with
        telemetry :=
          course.telemetry.emit (.log (layer.failureRecord course.request.environ failure)) }
  | .finish closing dropping cause =>
    layer.conclude
      (cause.bind fun failure => failedStatus failure course.request course.telemetry)
      (layer.moveAll course (closing ++ dropping))

@[simp] theorem pass_aside (course : Course) (moves : List Move) :
    layer.pass course (.aside moves) = layer.moveAll course moves := rfl

def passAll (course : Course) (stages : List Stage) : Course :=
  stages.foldl layer.pass course

@[simp] theorem passAll_nil (course : Course) : layer.passAll course [] = course := rfl

@[simp] theorem passAll_cons (course : Course) (stage : Stage) (stages : List Stage) :
    layer.passAll course (stage :: stages) = layer.passAll (layer.pass course stage) stages := rfl

theorem passAll_append (course : Course) (first second : List Stage) :
    layer.passAll course (first ++ second) =
      layer.passAll (layer.passAll course first) second := by
  simp [passAll]

def opening (environ : Environ) (server : Server) (t : Telemetry) : Course :=
  { request := (layer.begin environ t).1, server, telemetry := (layer.begin environ t).2 }

end Layer

namespace Application

variable {σ : Type}

/-- What can happen to a request after its application was called: the stages from one state of the
application to another, while the body is held and after it was let go of. -/
inductive Story (app : Application σ) : Bool → σ → List Stage → Bool → σ → Prop
  | nil (held : Bool) (state : σ) : Story app held state [] held state
  | chunk {state next last : σ} {moves : List Move} {chunk : Chunk} {stages : List Stage}
      {held : Bool} (asked : (app.next state).Makes moves (some (.ok chunk), next))
      (rest : Story app true next stages held last) :
      Story app true state (.work moves :: stages) held last
  | exhaust {state next closed dropped last : σ} {moves closing dropping : List Move}
      {cause : Option Failure} {stages : List Stage} {held : Bool}
      (asked : (app.next state).Makes moves (cause.map .error, next))
      (close : (app.close next).Makes closing closed)
      (drop : (app.drop closed).Makes dropping dropped)
      (rest : Story app false dropped stages held last) :
      Story app true state (.work moves :: .finish closing dropping cause :: stages) held last
  | release {state closed dropped last : σ} {closing dropping : List Move} {stages : List Stage}
      {held : Bool} (close : (app.close state).Makes closing closed)
      (drop : (app.drop closed).Makes dropping dropped)
      (rest : Story app false dropped stages held last) :
      Story app true state (.finish closing dropping none :: stages) held last
  | aside {before held : Bool} {state next last : σ} {start : ResponseStart}
      {answer : Option Failure} {moves : List Move} {stages : List Stage}
      (started : (app.respond start state).Makes moves (answer, next))
      (rest : Story app before next stages held last) :
      Story app before state (.aside moves :: stages) held last

theorem Story.append {app : Application σ} {before between after : Bool} {first middle last : σ}
    {stages others : List Stage} (h : app.Story before first stages between middle)
    (rest : app.Story between middle others after last) :
    app.Story before first (stages ++ others) after last := by
  induction h with
  | nil => exact rest
  | chunk asked _ ih => exact .chunk asked (ih rest)
  | exhaust asked close drop _ ih => exact .exhaust asked close drop (ih rest)
  | release close drop _ ih => exact .release close drop (ih rest)
  | aside started _ ih => exact .aside started (ih rest)

/-- All that can happen to a request, from the call of the application on. -/
def Life (app : Application σ) (environ : Environ) (failure : Option Failure)
    (stages : List Stage) (held : Bool) (last : σ) : Prop :=
  ∃ moves first rest, stages = .work moves :: (failure.toList.map .fail ++ rest) ∧
    (app.call environ).Makes moves (failure, first) ∧
    app.Story failure.isNone first rest held last

end Application

def Service.course {σ : Type} (service : Service (Traced σ)) : Course :=
  { request := service.state.request, server := service.server, telemetry := service.telemetry }

end RequestTracing
