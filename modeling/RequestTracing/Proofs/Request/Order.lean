import RequestTracing.Proofs.Application.Script
import RequestTracing.Proofs.Request.Accounts
/-!
The order of the events of one request. The events of a request whose span reports its uses follow
from the stages through which the request passes, one after the other.
-/
namespace RequestTracing

/-- All that the events of one request with an observed span depend on. -/
structure Scene where
  layer : Layer
  environ : Environ
  number : Nat
  kind : SpanKind
  recording : Bool
  request : String

namespace Scene

variable (scene : Scene)

def headers (attributes : Attributes) : List Event :=
  if scene.recording && scene.kind = .server then
    attributes.entries.map fun (name, value) => .setAttribute scene.number name value
  else []

/-- The code of a status line and then its outcome, or only a failure if there is no code. -/
def status (line : String) : List Event :=
  if scene.recording then
    match Http.statusCode? line with
    | some code =>
      [.setAttribute scene.number Http.statusCodeAttribute (.int code),
        .setStatus scene.number (Http.statusOutcome code true)]
    | none => [.setStatus scene.number (Http.unreadableStatus line)]
  else []

/-- The start of a request, up to the call of the application. -/
def opening : List Event :=
  let attributes := Http.requestAttributes scene.environ scene.layer.capture.allMethods
  .startSpan scene.number (Http.spanName scene.environ scene.layer.capture.allMethods) attributes
      (Carrier.listing scene.environ) ::
    scene.headers (scene.layer.capture.requestAttributes scene.environ) ++
    (if scene.layer.requestHook.isSome then [.requestHook] else []) ++
    [scene.layer.meter.active 1 (scene.layer.activeLabels scene.environ)]

def move : Move → List Event
  | .report events => events
  | .respond start =>
    scene.status start.status ++
      scene.headers (scene.layer.capture.responseAttributes start.headers) ++
      (if scene.layer.responseHook.isSome then [.responseHook] else []) ++
      [.server scene.request start]

def lateMove : Move → List Event
  | .report events => events
  | .respond start => [.server scene.request start]

def settlement (status : Option SpanStatus) (starts : List ResponseStart) : List Event :=
  status.toList.map (.setStatus scene.number) ++
    [.endSpan scene.number,
      scene.layer.meter.duration none (scene.layer.durationLabels scene.environ starts),
      scene.layer.meter.active (-1) (scene.layer.activeLabels scene.environ)]

/-- One stage after another, from when the request lasts or has ended, and after some starts of its
response. -/
def ofStages : Bool → List ResponseStart → List Stage → List Event
  | _, _, [] => []
  | held, starts, .work moves :: rest =>
    .enterSpan scene.number :: moves.flatMap scene.move ++
      ofStages held (starts ++ Move.starts moves) rest
  | true, starts, .aside moves :: rest =>
    moves.flatMap scene.move ++ ofStages true (starts ++ Move.starts moves) rest
  | false, starts, .aside moves :: rest =>
    moves.flatMap scene.lateMove ++ ofStages false starts rest
  | _, starts, .fail failure :: rest =>
    .log (scene.layer.failureRecord scene.environ failure) ::
      scene.settlement (some (.error failure)) starts ++ ofStages false starts rest
  | _, starts, .finish closing dropping cause :: rest =>
    closing.flatMap scene.move ++ dropping.flatMap scene.move ++
      scene.settlement (if scene.recording then cause.map .error else none)
        (starts ++ Move.starts (closing ++ dropping)) ++
      ofStages false starts rest

end Scene

namespace Span

variable (number : Nat) (kind : SpanKind) (t : Telemetry)

theorem setAttributes_observed (attributes : Attributes) :
    (observed number kind).setAttributes attributes t =
      (observed number kind,
        t.emitAll
          (attributes.entries.map fun (name, value) => .setAttribute number name value)) := by
  unfold setAttributes
  induction attributes.entries generalizing t with
  | nil => rfl
  | cons entry entries ih => exact ih (t.emit (.setAttribute number entry.1 entry.2))

end Span

namespace Scene

variable {scene : Scene} {t : Telemetry} (h : t.recording = scene.recording)

include h

theorem setHeaders_eq (attributes : Attributes) :
    Layer.setHeaders attributes (.observed scene.number scene.kind) t =
      (.observed scene.number scene.kind, t.emitAll (scene.headers attributes)) := by
  have hserver : (Span.observed scene.number scene.kind).isRecordingServer t =
      (scene.recording && scene.kind = .server) := by
    rw [← h]
    rfl
  unfold Layer.setHeaders headers
  rw [hserver, Span.setAttributes_observed]
  by_cases hshown : (scene.recording && scene.kind = .server) = true
  · rw [if_pos hshown, if_pos hshown]
  · rw [if_neg hshown, if_neg hshown]
    rfl

theorem applyStatus_eq (line : String) :
    (Span.observed scene.number scene.kind).applyStatus line t =
      (.observed scene.number scene.kind, t.emitAll (scene.status line)) := by
  unfold Span.applyStatus status
  simp only [Span.isRecording, h]
  split
  · cases Http.statusCode? line <;> rfl
  · rfl

omit h

theorem annotateSpan_eq (hsilent : scene.layer.IsSilent) (h : t.recording = scene.recording)
    (environ : Environ) (start : ResponseStart) :
    (scene.layer.annotateSpan environ start (.observed scene.number scene.kind) t) =
      (.observed scene.number scene.kind,
        t.emitAll (scene.status start.status ++
          scene.headers (scene.layer.capture.responseAttributes start.headers) ++
          (if scene.layer.responseHook.isSome then [.responseHook] else []))) := by
  have hrecording : (t.emitAll (scene.status start.status)).recording = scene.recording := by
    rw [Telemetry.emitAll_recording, h]
  simp only [Layer.annotateSpan, applyStatus_eq h, setHeaders_eq hrecording,
    Layer.runResponseHook_eq hsilent, Telemetry.emitAll_emitAll]

/-- A request of a scene that lasts, after some starts of its response. -/
structure Standing (scene : Scene) (starts : List ResponseStart) (course : Course) : Prop where
  environ : course.request.environ = scene.environ
  span : course.request.span = some (.observed scene.number scene.kind)
  activeLabels : course.request.activeLabels = scene.layer.activeLabels scene.environ
  durationLabels : course.request.durationLabels =
    scene.layer.durationLabels scene.environ starts
  recording : course.telemetry.recording = scene.recording
  server : course.server.request = scene.request

namespace Standing

variable {starts : List ResponseStart} {course : Course}

theorem enter (h : scene.Standing starts course) :
    scene.Standing starts (Layer.enter course) ∧
      (Layer.enter course).telemetry.events =
        course.telemetry.events ++ [.enterSpan scene.number] := by
  have hentered : course.request.enter course.telemetry =
      course.telemetry.emit (.enterSpan scene.number) := by
    simp [Request.enter, h.span, Span.enter]
  refine ⟨⟨h.environ, h.span, h.activeLabels, h.durationLabels, ?_, h.server⟩, ?_⟩
  · simp [Layer.enter, h.recording]
  · simp [Layer.enter, hentered]

theorem move (hsilent : scene.layer.IsSilent) (h : scene.Standing starts course) (move : Move) :
    scene.Standing (starts ++ Move.starts [move]) (scene.layer.move course move) ∧
      (scene.layer.move course move).telemetry.events =
        course.telemetry.events ++ scene.move move := by
  cases move with
  | report events =>
    refine ⟨⟨h.environ, h.span, h.activeLabels, ?_, ?_, h.server⟩, ?_⟩
    · simp [Layer.move, h.durationLabels]
    · simp [Layer.move, h.recording]
    · simp [Layer.move, Scene.move]
  | respond start =>
    have hcourse := scene.layer.annotate_of_some h.span start course.telemetry
    rw [annotateSpan_eq hsilent h.recording] at hcourse
    refine ⟨⟨?_, ?_, ?_, ?_, ?_, ?_⟩, ?_⟩
    · simp [Layer.move, hcourse, Request.label, h.environ]
    · simp [Layer.move, hcourse]
    · simp [Layer.move, hcourse, Request.label, h.activeLabels]
    · simp [Layer.move, hcourse, Request.label, h.durationLabels, Layer.durationLabels_append]
    · simp [Layer.move, hcourse, Telemetry.emit, h.recording]
    · simp [Layer.move, h.server]
    · simp [Layer.move, hcourse, Scene.move, h.server]

theorem moveAll (hsilent : scene.layer.IsSilent) (h : scene.Standing starts course)
    (moves : List Move) :
    scene.Standing (starts ++ Move.starts moves) (scene.layer.moveAll course moves) ∧
      (scene.layer.moveAll course moves).telemetry.events =
        course.telemetry.events ++ moves.flatMap scene.move := by
  induction moves generalizing starts course with
  | nil => simpa using h
  | cons first moves ih =>
    obtain ⟨hstanding, hevents⟩ := h.move hsilent first
    obtain ⟨hlast, hmore⟩ := ih hstanding
    have hstarts : Move.starts (first :: moves) = Move.starts [first] ++ Move.starts moves := by
      cases first <;> rfl
    refine ⟨?_, ?_⟩
    · rw [hstarts, ← List.append_assoc]
      exact hlast
    · rw [Layer.moveAll_cons, hmore, hevents, List.flatMap_cons, List.append_assoc]

theorem work (hsilent : scene.layer.IsSilent) (h : scene.Standing starts course)
    (moves : List Move) :
    scene.Standing (starts ++ Move.starts moves) (scene.layer.pass course (.work moves)) ∧
      (scene.layer.pass course (.work moves)).telemetry.events =
        course.telemetry.events ++ .enterSpan scene.number :: moves.flatMap scene.move := by
  obtain ⟨hentered, henter⟩ := h.enter
  obtain ⟨hlast, hevents⟩ := hentered.moveAll hsilent moves
  refine ⟨⟨hlast.environ, hlast.span, hlast.activeLabels, hlast.durationLabels, ?_, hlast.server⟩,
    ?_⟩
  · simpa [Layer.pass] using hlast.recording
  · simp [Layer.pass, hevents, henter]

theorem conclude (h : scene.Standing starts course) (status : Option SpanStatus) :
    (scene.layer.conclude status course).telemetry.events =
      course.telemetry.events ++ scene.settlement status starts := by
  cases status <;>
    simp [Layer.conclude, Layer.settle, Request.endSpan, h.span, Span.finish, Span.setStatus,
      Span.release, settlement, h.activeLabels, h.durationLabels]

end Standing

/-- A request that has ended only tells of what its application and the server do. -/
theorem lateMoves_events {course : Course} (hspan : course.request.span = none)
    (hserver : course.server.request = scene.request) (moves : List Move) :
    (scene.layer.moveAll course moves).request.span = none ∧
      (scene.layer.moveAll course moves).server.request = scene.request ∧
      (scene.layer.moveAll course moves).telemetry.events =
        course.telemetry.events ++ moves.flatMap scene.lateMove := by
  induction moves generalizing course with
  | nil => exact ⟨hspan, hserver, by simp⟩
  | cons move moves ih =>
    have hmove : (scene.layer.move course move).request.span = none ∧
        (scene.layer.move course move).server.request = scene.request ∧
        (scene.layer.move course move).telemetry.events =
          course.telemetry.events ++ scene.lateMove move := by
      cases move with
      | report events => exact ⟨hspan, hserver, course.telemetry.emitAll_events events⟩
      | respond start =>
        have hcourse := scene.layer.annotate_of_none hspan start course.telemetry
        refine ⟨?_, ?_, ?_⟩
        · simp [Layer.move, hcourse, Request.label, hspan]
        · simp [Layer.move, hserver]
        · simp [Layer.move, hcourse, lateMove, hserver]
    obtain ⟨hfirst, hfirstServer, hevents⟩ := hmove
    obtain ⟨hlast, hlastServer, hmore⟩ := ih hfirst hfirstServer
    refine ⟨hlast, hlastServer, ?_⟩
    rw [Layer.moveAll_cons, hmore, hevents, List.flatMap_cons, List.append_assoc]

/-- Where a request of a scene can stand, after some starts of its response. -/
def Stands (scene : Scene) (held : Bool) (starts : List ResponseStart) (course : Course) : Prop :=
  if held then scene.Standing starts course
  else course.request.span = none ∧ course.server.request = scene.request

theorem finish_events (hsilent : scene.layer.IsSilent) {starts : List ResponseStart}
    {course : Course} (h : scene.Standing starts course) (closing dropping : List Move)
    (cause : Option Failure) :
    let last := scene.layer.pass course (.finish closing dropping cause)
    scene.Stands false starts last ∧
      last.telemetry.events = course.telemetry.events ++
        (closing.flatMap scene.move ++ dropping.flatMap scene.move ++
          scene.settlement (if scene.recording then cause.map .error else none)
            (starts ++ Move.starts (closing ++ dropping))) := by
  have hcause : (cause.bind fun failure =>
      Layer.failedStatus failure course.request course.telemetry) =
        if scene.recording then cause.map .error else none := by
    cases cause with
    | none => simp
    | some failure =>
      simp [Layer.failedStatus, Request.isRecording, h.span, Span.isRecording, h.recording]
  obtain ⟨hlast, hevents⟩ := h.moveAll hsilent (closing ++ dropping)
  refine ⟨⟨scene.layer.conclude_span _ _, hlast.server⟩, ?_⟩
  simp only [Layer.pass]
  rw [hcause, hlast.conclude, hevents, List.flatMap_append, List.append_assoc]

/-- The events of a story are those of its stages, one after the other. -/
theorem story_events {σ : Type} {app : Application σ} (hsilent : scene.layer.IsSilent)
    {held after : Bool} {first last : σ} {stages : List Stage}
    (h : app.Story held first stages after last) {starts : List ResponseStart} {course : Course}
    (hcourse : scene.Stands held starts course) :
    (scene.layer.passAll course stages).telemetry.events =
      course.telemetry.events ++ scene.ofStages held starts stages := by
  induction h generalizing starts course with
  | nil held state => simp [ofStages]
  | @chunk state next last moves chunk rest held asked _ ih =>
    have hopen : scene.Standing starts course := hcourse
    obtain ⟨hstanding, hevents⟩ := hopen.work hsilent moves
    rw [Layer.passAll_cons, ih hstanding, hevents]
    simp [ofStages]
  | @exhaust state next closed dropped last moves closing dropping cause rest held asked close drop
      _ ih =>
    have hopen : scene.Standing starts course := hcourse
    obtain ⟨hstanding, hevents⟩ := hopen.work hsilent moves
    obtain ⟨hended, hfinish⟩ := finish_events hsilent hstanding closing dropping cause
    rw [Layer.passAll_cons, Layer.passAll_cons, ih hended, hfinish, hevents]
    simp [ofStages]
  | @release state closed dropped last closing dropping rest held close drop _ ih =>
    have hopen : scene.Standing starts course := hcourse
    obtain ⟨hended, hfinish⟩ := finish_events hsilent hopen closing dropping none
    rw [Layer.passAll_cons, ih hended, hfinish]
    simp [ofStages]
  | @aside before held state next last start answer moves rest started _ ih =>
    cases before with
    | true =>
      have hopen : scene.Standing starts course := hcourse
      obtain ⟨hstanding, hevents⟩ := hopen.moveAll hsilent moves
      rw [Layer.passAll_cons, Layer.pass_aside, ih hstanding, hevents]
      simp [ofStages]
    | false =>
      obtain ⟨hspan, hserver⟩ := hcourse
      obtain ⟨hlast, hlastServer, hevents⟩ := lateMoves_events hspan hserver moves
      have hended : scene.Stands false starts (scene.layer.moveAll course moves) :=
        ⟨hlast, hlastServer⟩
      rw [Layer.passAll_cons, Layer.pass_aside, ih hended, hevents]
      simp [ofStages]

theorem fail_events {starts : List ResponseStart} {course : Course}
    (h : scene.Standing starts course) (failure : Failure) :
    let last := scene.layer.pass course (.fail failure)
    scene.Stands false starts last ∧
      last.telemetry.events = course.telemetry.events ++
        .log (scene.layer.failureRecord scene.environ failure) ::
          scene.settlement (some (.error failure)) starts := by
  let record := scene.layer.failureRecord course.request.environ failure
  let logged : Course := { course with telemetry := course.telemetry.emit (.log record) }
  have hlogged : scene.Standing starts logged :=
    ⟨h.environ, h.span, h.activeLabels, h.durationLabels, h.recording, h.server⟩
  refine ⟨⟨scene.layer.conclude_span _ _, h.server⟩, ?_⟩
  have hevents := hlogged.conclude (some (.error failure))
  rw [← h.environ]
  simpa [logged, record, Layer.pass] using hevents

/-- A request that was just taken up stands at the beginning of its scene. -/
theorem opening_standing {layer : Layer} {kind : SpanKind} (htracer : layer.tracer = .observer kind)
    (hsilent : layer.IsSilent) (environ : Environ) (server : Server) (t : Telemetry) :
    let scene : Scene :=
      { layer, environ, number := t.observedSpans, kind, recording := t.recording
        request := server.request }
    scene.Standing [] (layer.opening environ server t) ∧
      (layer.opening environ server t).telemetry.events = t.events ++ scene.opening := by
  intro scene
  have hstarted : layer.started environ t =
      (.observed scene.number scene.kind,
        { t with observedSpans := scene.number + 1 }.emit
          (.startSpan scene.number (Http.spanName environ layer.capture.allMethods)
            (Http.requestAttributes environ layer.capture.allMethods)
            (Carrier.listing environ))) := by
    simp [Layer.started, htracer, Tracer.start, scene]
  have hrecording : (layer.started environ t).2.recording = scene.recording := by
    rw [hstarted]
    rfl
  have hready : layer.readied environ t =
      (.observed scene.number scene.kind, (layer.started environ t).2.emitAll
        (scene.headers (layer.capture.requestAttributes environ) ++
          (if layer.requestHook.isSome then [.requestHook] else []))) := by
    have hheaders := setHeaders_eq hrecording (layer.capture.requestAttributes environ)
    have hspan : (layer.started environ t).1 = .observed scene.number scene.kind := by
      rw [hstarted]
    simp only [Layer.readied, hspan, hheaders]
    rw [Layer.runRequestHook_eq hsilent, Telemetry.emitAll_emitAll]
  refine ⟨⟨?_, ?_, ?_, ?_, ?_, rfl⟩, ?_⟩
  · simp [Layer.opening, Layer.begin_eq, scene]
  · simp [Layer.opening, Layer.begin_eq, hready]
  · simp [Layer.opening, Layer.begin_eq, scene]
  · simp [Layer.opening, Layer.begin_eq, scene]
  · simp [Layer.opening, Layer.begin_eq, hready, Telemetry.emit, hrecording]
  · simp [Layer.opening, Layer.begin_eq, hready, hstarted, opening, scene]

/-- The events of a request come in the order of the stages of its life: the opening, then the call
of the application, and then what is done with the body up to its end and after that. -/
theorem serve_events {σ : Type} {layer : Layer} {kind : SpanKind}
    (htracer : layer.tracer = .observer kind) (hsilent : layer.IsSilent) {app : Application σ}
    (happ : app.OnlyReports) (environ : Environ) (uses : List Use) (server : Server)
    (t : Telemetry) :
    let service := (layer.wrap app).serve environ uses server t
    let scene : Scene :=
      { layer, environ, number := t.observedSpans, kind, recording := t.recording
        request := server.request }
    ∃ stages,
      app.Life environ service.failure stages service.state.isOpen service.state.inner ∧
      service.telemetry.events = t.events ++ scene.opening ++ scene.ofStages true [] stages := by
  intro service scene
  obtain ⟨_, stages, hlife, hcourse⟩ := layer.serve_life happ environ uses server t
  refine ⟨stages, hlife, ?_⟩
  obtain ⟨hstanding, hopening⟩ := opening_standing htracer hsilent environ server t
  obtain ⟨moves, first, rest, rfl, hcall, hstory⟩ := hlife
  have hevents : service.telemetry.events = (layer.passAll (layer.opening environ server t)
      (.work moves :: (service.failure.toList.map .fail ++ rest))).telemetry.events :=
    congrArg (fun course : Course => course.telemetry.events) hcourse
  obtain ⟨hcalled, hwork⟩ := hstanding.work hsilent moves
  rw [hevents]
  cases hfailure : service.failure with
  | none =>
    rw [hfailure] at hstory
    have hstands : scene.Stands true (Move.starts moves)
        (layer.pass (layer.opening environ server t) (.work moves)) := hcalled
    have hlast := story_events hsilent hstory hstands
    simp only [Option.toList, List.map_nil, List.nil_append, Layer.passAll_cons]
    rw [hlast, hwork, hopening]
    simp [ofStages, scene]
  | some failure =>
    rw [hfailure] at hstory
    obtain ⟨hended, hfail⟩ := fail_events hcalled failure
    have hlast := story_events hsilent hstory hended
    simp only [Option.toList, List.map_cons, List.map_nil, List.cons_append, List.nil_append,
      Layer.passAll_cons]
    rw [hlast, hfail, hwork, hopening]
    simp [ofStages, scene]

theorem serve_events_talkative :
    let layer : Layer :=
      { Layer.observing with responseHook := some fun _ _ => .look fun _ _ => .done }
    let app := Script.application "request" Script.talkative
    let uses : List Use := [.next, .next, .close, .respond { status := "404 Gone" }]
    let service := (layer.wrap app).serve .empty uses { request := "request" } {}
    let scene : Scene :=
      { layer, environ := .empty, number := 0, kind := .server, recording := true
        request := "request" }
    layer.tracer = .observer .server ∧ layer.IsSilent ∧ app.OnlyReports ∧
    ∃ stages, app.Life .empty service.failure stages false service.state.inner ∧
      service.telemetry.events = scene.opening ++ scene.ofStages true [] stages := by
  intro layer app uses service scene
  have hsilent : layer.IsSilent := by
    rintro action ⟨environ, ⟨hook, hhook, huses⟩ | ⟨start, hook, hhook, huses⟩⟩
    · cases hhook
      exact huses.elim
    · cases hhook
      obtain ⟨_, _, huses⟩ := huses
      exact huses.elim
  have hover : service.state.isOpen = false := by rfl
  have happ := Script.application_onlyReports "request" Script.talkative
  obtain ⟨stages, hlife, hevents⟩ :=
    serve_events (rfl : layer.tracer = .observer .server) hsilent happ .empty uses
      { request := "request" } {}
  rw [hover] at hlife
  refine ⟨rfl, hsilent, happ, stages, ?_, ?_⟩
  · apply hlife
  · rw [hevents]
    rfl

end Scene

end RequestTracing
