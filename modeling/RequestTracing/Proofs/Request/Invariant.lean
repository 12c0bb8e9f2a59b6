import RequestTracing.Proofs.Request.Operations
import RequestTracing.Proofs.Request.Run
/-!
Facts about a request that last. What every part of a request keeps holds until the request is
settled, and after that nothing but late events is added.
-/
namespace RequestTracing

namespace Layer

/-- Whether a fact about a request is kept from its opening up to its end. -/
structure Keeps (layer : Layer) (Open : Course → Prop) : Prop where
  enter : ∀ course, Open course → Open (enter course)
  leave : ∀ course before, Open course →
    Open { course with telemetry := Request.leave before course.telemetry }
  move : ∀ course move, Move.IsOwn move → Open course → Open (layer.move course move)
  fail : ∀ course failure, Open course →
    Open { course with
      telemetry :=
        course.telemetry.emit (.log (layer.failureRecord course.request.environ failure)) }

/-- Whether a fact about a request is kept while its application or its body runs. -/
structure Upholds (layer : Layer) (Open : Course → Prop) : Prop where
  enter : ∀ course, Open course → Open (enter course)
  leave : ∀ course before, Open course →
    Open { course with telemetry := Request.leave before course.telemetry }
  move : ∀ course move, Move.IsOwn move → Open course → Open (layer.move course move)

/-- Whether a request has been settled while some fact held of it, and only late events have come
since. -/
def SettledFrom (layer : Layer) (Open : Course → Prop) (course : Course) : Prop :=
  ∃ last status late, Open last ∧ course.request.span = none ∧
    course.telemetry.events = (layer.conclude status last).telemetry.events ++ late ∧
    course.telemetry.exported = (layer.conclude status last).telemetry.exported ∧
    ∀ event ∈ late, event.isLate = true

/-- Whether nothing but late events has come since a request ended. -/
structure Lingers (ended course : Course) : Prop where
  span : course.request.span = none
  exported : course.telemetry.exported = ended.telemetry.exported
  events : ∃ late, course.telemetry.events = ended.telemetry.events ++ late ∧
    ∀ event ∈ late, event.isLate = true

/-- The course of a request once the failure of its application, if there is one, was told. -/
def told (layer : Layer) (failed : Option Failure) (course : Course) : Course :=
  { course with
    telemetry := course.telemetry.emitAll (failed.toList.map fun failure =>
      .log (layer.failureRecord course.request.environ failure)) }

def failureEvents (layer : Layer) (environ : Environ) (failed : Option Failure) : List Event :=
  failed.toList.map fun failure => .log (layer.failureRecord environ failure)

theorem told_events (layer : Layer) (failed : Option Failure) (course : Course) :
    (layer.told failed course).telemetry.events =
      course.telemetry.events ++ layer.failureEvents course.request.environ failed :=
  course.telemetry.emitAll_events _

/-- A failure of an application uses no span, measures nothing and starts no response. -/
theorem quiet_failureEvents {layer : Layer} {environ : Environ} {failed : Option Failure}
    (event : Event) (he : event ∈ layer.failureEvents environ failed) :
    event.isSpanUse = false ∧ event.isMetric = false ∧ event.start? = none := by
  obtain ⟨failure, _, rfl⟩ := List.mem_map.mp he
  simp [Event.isSpanUse, Event.isSpanEnd, LogRecord.isSpanEnd, failureRecord, Event.isMetric,
    Event.start?]

theorem starts_failureEvents {layer : Layer} {environ : Environ} {failed : Option Failure} :
    Event.starts (layer.failureEvents environ failed) = [] :=
  Event.starts_eq_nil fun event he => (quiet_failureEvents event he).2.2

/-- The outcome that the span of a request is offered at its end: the failure of the application, or
that of the body if the span kept updates when the body failed. -/
def lastStatus (failed cause : Option Failure) (course : Course) : Option SpanStatus :=
  (cause.filter fun _ => failed.isSome || course.request.isRecording course.telemetry).map .error

/-- Whether a request has ended while some fact held of it, after perhaps a failure of its
application and with some failures in all. The last of these is the outcome, unless the span did not
keep updates when the body failed. -/
def EndedFrom (layer : Layer) (Open : Course → Prop) (failed : Option Failure)
    (failures : List Failure) (course : Course) : Prop :=
  ∃ last cause other, Open last ∧ Open other ∧ failures = Option.toList cause ∧
    Lingers (layer.conclude (lastStatus failed cause other) (layer.told failed last)) course

variable {layer : Layer} {Open Other : Course → Prop}

theorem moveAll_of_move {P : Course → Prop}
    (hmove : ∀ course move, Move.IsOwn move → P course → P (layer.move course move))
    {course : Course} {moves : List Move} (hown : ∀ move ∈ moves, Move.IsOwn move)
    (h : P course) : P (layer.moveAll course moves) := by
  induction moves generalizing course with
  | nil => exact h
  | cons move moves ih =>
    obtain ⟨hfirst, hmoves⟩ := List.forall_mem_cons.mp hown
    exact ih hmoves (hmove course move hfirst h)

theorem Lingers.move {ended course : Course} (h : Lingers ended course) {move : Move}
    (hown : move.IsOwn) : Lingers ended (layer.move course move) := by
  obtain ⟨late, hevents, hlate⟩ := h.events
  obtain ⟨hspan, hexported, more, hmore, hmoreLate⟩ := layer.move_of_none h.span hown
  refine ⟨hspan, hexported.trans h.exported, late ++ more, ?_, fun event he => ?_⟩
  · rw [hmore, hevents, List.append_assoc]
  · exact (List.mem_append.mp he).elim (hlate event) (hmoreLate event)

namespace EndedFrom

variable {failed : Option Failure} {failures : List Failure}

theorem of_conclude {course other : Course} (h : Open course) (hother : Open other)
    (cause : Option Failure) :
    layer.EndedFrom Open failed cause.toList
      (layer.conclude (lastStatus failed cause other) (layer.told failed course)) :=
  ⟨course, cause, other, h, hother, rfl, layer.conclude_span _ _, rfl, [], by simp, by simp⟩

theorem moveAll {course : Course} {moves : List Move} (hown : ∀ move ∈ moves, Move.IsOwn move)
    (h : layer.EndedFrom Open failed failures course) :
    layer.EndedFrom Open failed failures (layer.moveAll course moves) := by
  obtain ⟨last, cause, other, hlast, hother, hfailures, hlingers⟩ := h
  refine ⟨last, cause, other, hlast, hother, hfailures, ?_⟩
  exact moveAll_of_move (fun _ _ hmove hcourse => hcourse.move hmove) hown hlingers

end EndedFrom

namespace Upholds

theorem and (h : layer.Upholds Open) (other : layer.Upholds Other) :
    layer.Upholds fun course => Open course ∧ Other course where
  enter course hopen := ⟨h.enter course hopen.1, other.enter course hopen.2⟩
  leave course before hopen := ⟨h.leave course before hopen.1, other.leave course before hopen.2⟩
  move course move hown hopen :=
    ⟨h.move course move hown hopen.1, other.move course move hown hopen.2⟩

variable {σ : Type} (h : layer.Upholds Open)

include h

theorem moveAll {course : Course} {moves : List Move} (hown : ∀ move ∈ moves, Move.IsOwn move)
    (hopen : Open course) : Open (layer.moveAll course moves) :=
  moveAll_of_move h.move hown hopen

theorem work {course : Course} {moves : List Move} (hown : ∀ move ∈ moves, Move.IsOwn move)
    (hopen : Open course) : Open (layer.pass course (.work moves)) :=
  h.leave _ _ (h.moveAll hown (h.enter course hopen))

theorem finish {course : Course} {closing dropping : List Move} (cause : Option Failure)
    (hclosing : ∀ move ∈ closing, Move.IsOwn move) (hdropping : ∀ move ∈ dropping, Move.IsOwn move)
    (hopen : Open course) :
    layer.EndedFrom Open none cause.toList
      (layer.pass course (.finish closing dropping cause)) := by
  have hlast : Open (layer.moveAll course (closing ++ dropping)) := by
    rw [moveAll_append]
    exact h.moveAll hdropping (h.moveAll hclosing hopen)
  have hstatus : (cause.bind fun failure =>
      failedStatus failure course.request course.telemetry) = lastStatus none cause course := by
    cases cause with
    | none => rfl
    | some failure =>
      cases hrecording : course.request.isRecording course.telemetry <;>
        simp [failedStatus, lastStatus, hrecording, Option.filter]
  rw [pass, hstatus]
  exact EndedFrom.of_conclude hlast hopen cause

/-- What is upheld holds through a story, until the request ends with the failures that the story
has. -/
theorem story {app : Application σ} (happ : app.OnlyReports) {course : Course}
    {held after : Bool} {first last : σ} {stages : List Stage} {failed : Option Failure}
    {failures : List Failure} (hstory : app.Story held first stages after last)
    (hcourse : if held then Open course ∧ failed = none ∧ failures = []
      else layer.EndedFrom Open failed failures course) :
    if after then Open (layer.passAll course stages) ∧
        failures ++ stages.filterMap Stage.failure? = []
      else layer.EndedFrom Open failed (failures ++ stages.filterMap Stage.failure?)
        (layer.passAll course stages) := by
  induction hstory generalizing course failures with
  | nil held state =>
    cases held with
    | false => simpa using hcourse
    | true =>
      obtain ⟨hopen, _, rfl⟩ := hcourse
      exact ⟨hopen, rfl⟩
  | chunk asked _ ih =>
    obtain ⟨hopen, hfailed, rfl⟩ := hcourse
    exact ih ⟨h.work (asked.isOwn (happ.next _)) hopen, hfailed, rfl⟩
  | @exhaust state next closed dropped last moves closing dropping cause stages held asked close
      drop _ ih =>
    obtain ⟨hopen, rfl, rfl⟩ := hcourse
    have hended := h.finish cause (close.isOwn (happ.close _)) (drop.isOwn (happ.drop _))
      (h.work (asked.isOwn (happ.next _)) hopen)
    have hfailures : (Stage.work moves :: .finish closing dropping cause :: stages).filterMap
        Stage.failure? = cause.toList ++ stages.filterMap Stage.failure? := by
      cases cause <;> rfl
    rw [List.nil_append, hfailures]
    exact ih hended
  | release close drop _ ih =>
    obtain ⟨hopen, rfl, rfl⟩ := hcourse
    exact ih (h.finish none (close.isOwn (happ.close _)) (drop.isOwn (happ.drop _)) hopen)
  | @aside before held state next last start answer moves stages started _ ih =>
    have hown := started.isOwn (happ.respond _ _)
    apply ih
    cases before with
    | false => exact EndedFrom.moveAll hown hcourse
    | true => exact ⟨h.moveAll hown hcourse.1, hcourse.2⟩

theorem life {app : Application σ} (happ : app.OnlyReports) {environ : Environ}
    {failed : Option Failure} {stages : List Stage} {held : Bool} {last : σ} {course : Course}
    (hlife : app.Life environ failed stages held last) (hopen : Open course) :
    if held then Open (layer.passAll course stages) ∧ stages.filterMap Stage.failure? = []
      else layer.EndedFrom Open failed (stages.filterMap Stage.failure?)
        (layer.passAll course stages) := by
  obtain ⟨moves, first, rest, rfl, hcall, hstory⟩ := hlife
  have hwork := h.work (hcall.isOwn (happ.call environ)) hopen
  let called := layer.passAll course (.work moves :: failed.toList.map .fail)
  have hcalled : if failed.isNone then Open called ∧ failed = none ∧ failed.toList = []
      else layer.EndedFrom Open failed failed.toList called := by
    cases failed with
    | none => exact ⟨hwork, rfl, rfl⟩
    | some failure => exact EndedFrom.of_conclude hwork hwork (some failure)
  have hlast := h.story happ hstory hcalled
  cases failed with
  | none => exact hlast
  | some failure => exact hlast

/-- What is upheld from the opening of a request on holds of it until it is over. -/
theorem serve {app : Application σ} (happ : app.OnlyReports) (environ : Environ)
    (uses : List Use) (server : Server) (t : Telemetry)
    (hopen : Open (layer.opening environ server t)) :
    let service := (layer.wrap app).serve environ uses server t
    if service.isOver uses then
      layer.EndedFrom Open service.failure service.failures service.course
    else Open service.course ∧ service.failures = [] := by
  intro service
  obtain ⟨hheld, stages, hlife, hcourse, hfailures⟩ :=
    layer.serve_stages happ environ uses server t
  have hlast := h.life happ hlife hopen
  rw [← hcourse, hheld, hfailures] at hlast
  cases hover : service.isOver uses with
  | false =>
    rw [hover] at hlast
    exact hlast
  | true =>
    rw [hover] at hlast
    exact hlast

end Upholds

namespace Keeps

theorem upholds (h : layer.Keeps Open) : layer.Upholds Open :=
  ⟨h.enter, h.leave, h.move⟩

theorem and (h : layer.Keeps Open) (other : layer.Keeps Other) :
    layer.Keeps fun course => Open course ∧ Other course :=
  { h.upholds.and other.upholds with
    fail := fun course failure hopen =>
      ⟨h.fail course failure hopen.1, other.fail course failure hopen.2⟩ }

theorem told (h : layer.Keeps Open) (failed : Option Failure) {course : Course}
    (hopen : Open course) : Open (layer.told failed course) := by
  cases failed with
  | none => exact hopen
  | some failure => exact h.fail course failure hopen

/-- What is kept from the opening of a request on holds of it until it is over. -/
theorem serve {σ : Type} (h : layer.Keeps Open) {app : Application σ} (happ : app.OnlyReports)
    (environ : Environ) (uses : List Use) (server : Server) (t : Telemetry)
    (hopen : Open (layer.opening environ server t)) :
    let service := (layer.wrap app).serve environ uses server t
    if service.isOver uses then layer.SettledFrom Open service.course
      else Open service.course := by
  intro service
  have hlast := h.upholds.serve happ environ uses server t hopen
  cases hover : service.isOver uses with
  | false =>
    rw [if_neg (by rw [hover]; simp)] at hlast
    exact hlast.1
  | true =>
    rw [if_pos hover] at hlast
    obtain ⟨last, _, _, hended, _, _, hlingers⟩ := hlast
    obtain ⟨late, hevents, hlate⟩ := hlingers.events
    exact ⟨_, _, late, h.told _ hended, hlingers.span, hevents, hlingers.exported, hlate⟩

end Keeps

end Layer

end RequestTracing
