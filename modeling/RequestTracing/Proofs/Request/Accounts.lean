import RequestTracing.Proofs.Dictionary.Lookup
import RequestTracing.Proofs.Request.Invariant
/-!
The accounts of a request: it is counted as active once, and at its end one duration is recorded and
the count is taken back. The labels of the duration follow the starts of the response.
-/
namespace RequestTracing

/-- The code of the last of some starts whose status line has one. -/
def Http.lastCode? (starts : List ResponseStart) : Option Int :=
  (starts.filterMap fun start => Http.statusCode? start.status).getLast?

/-- A start whose status line has no code leaves the last code as it is. -/
theorem Http.lastCode?_append (starts : List ResponseStart) (start : ResponseStart) :
    lastCode? (starts ++ [start]) = (statusCode? start.status <|> lastCode? starts) := by
  unfold lastCode?
  rw [List.filterMap_append, List.getLast?_append]
  cases hcode : statusCode? start.status <;> simp [hcode]

namespace Layer

variable (layer : Layer) (environ : Environ)

def durationLabels (starts : List ResponseStart) : Attributes :=
  (Http.durationLabels (Http.requestAttributes environ layer.capture.allMethods)).insertSome
    Http.statusCodeAttribute ((Http.lastCode? starts).map .int)

@[simp] theorem durationLabels_nil : layer.durationLabels environ [] =
    Http.durationLabels (Http.requestAttributes environ layer.capture.allMethods) := rfl

/-- One more start sets the code if it has one, and else leaves the code that there was. -/
theorem durationLabels_append (starts : List ResponseStart) (start : ResponseStart) :
    layer.durationLabels environ (starts ++ [start]) =
      (layer.durationLabels environ starts).insertSome Http.statusCodeAttribute
        ((Http.statusCode? start.status).map .int) := by
  unfold durationLabels
  rw [Http.lastCode?_append, Dictionary.insertSome_insertSome]
  cases Http.statusCode? start.status <;> rfl

/-- Whether some events count a request as active, once, and measure nothing else. -/
def IsCount (events : List Event) : Prop :=
  ∃ before after,
    events = before ++ layer.meter.active 1 (layer.activeLabels environ) :: after ∧
    ∀ event ∈ before ++ after, event.isMetric = false

theorem IsCount.append {layer : Layer} {environ : Environ} {events more : List Event}
    (h : layer.IsCount environ events)
    (hmore : ∀ event ∈ more, event.isMetric = false) :
    layer.IsCount environ (events ++ more) := by
  obtain ⟨before, after, rfl, hquiet⟩ := h
  refine ⟨before, after ++ more, by simp, fun event he => ?_⟩
  rw [← List.append_assoc] at he
  exact (List.mem_append.mp he).elim (hquiet event) (hmore event)

namespace IsCount

variable {layer : Layer} {environ : Environ} {events : List Event}
  (h : layer.IsCount environ events)

include h

theorem durations : events.countP Event.isDuration = 0 := by
  obtain ⟨before, after, rfl, hquiet⟩ := h
  apply List.countP_eq_zero.mpr
  intro event he hduration
  have hmetric := Event.isMetric_of_isDuration hduration
  simp only [List.mem_append, List.mem_cons] at he
  rcases he with he | rfl | he
  · simp [hquiet event (by simp [he])] at hmetric
  · simp at hduration
  · simp [hquiet event (by simp [he])] at hmetric

theorem changes (delta : Int) : events.filter (Event.isActive delta) =
    if delta = 1 then [layer.meter.active 1 (layer.activeLabels environ)] else [] := by
  obtain ⟨before, after, rfl, hquiet⟩ := h
  have hnone : ∀ part ⊆ before ++ after, part.filter (Event.isActive delta) = [] := by
    intro part hpart
    refine List.filter_eq_nil_iff.mpr fun event he hactive => ?_
    have hmetric := Event.isMetric_of_isActive hactive
    simp [hquiet event (hpart he)] at hmetric
  rw [List.filter_append, List.filter_cons, hnone before (by simp), hnone after (by simp)]
  by_cases hdelta : delta = 1
  · simp [hdelta]
  · simp [hdelta, Ne.symm hdelta]

end IsCount

variable (t : Telemetry)

/-- A request that was counted. Its labels are up to date. -/
structure Counted (course : Course) : Prop where
  activeLabels : course.request.activeLabels = layer.activeLabels environ
  events : ∃ new, course.telemetry.events = t.events ++ new ∧ layer.IsCount environ new ∧
    course.request.durationLabels = layer.durationLabels environ (Event.starts new)

variable {layer environ t}

/-- Events that neither measure nor start a response leave the accounts of a request as they are. -/
theorem Counted.quiet {course : Course} (h : layer.Counted environ t course) (last : Course)
    (hactive : last.request.activeLabels = course.request.activeLabels)
    (hduration : last.request.durationLabels = course.request.durationLabels)
    {more : List Event} (hmore : last.telemetry.events = course.telemetry.events ++ more)
    (hquiet : ∀ event ∈ more, event.isMetric = false ∧ event.start? = none) :
    layer.Counted environ t last := by
  obtain ⟨new, hnew, hcount, hlabels⟩ := h.events
  have hstarts : Event.starts more = [] :=
    Event.starts_eq_nil fun event he => (hquiet event he).2
  refine ⟨hactive.trans h.activeLabels, new ++ more, ?_,
    hcount.append fun event he => (hquiet event he).1, ?_⟩
  · rw [hmore, hnew, List.append_assoc]
  · rw [hduration, hlabels, Event.starts_append, hstarts, List.append_nil]

theorem Counted.spanUse {course : Course} (h : layer.Counted environ t course) (last : Course)
    (hactive : last.request.activeLabels = course.request.activeLabels)
    (hduration : last.request.durationLabels = course.request.durationLabels)
    {more : List Event} (hmore : last.telemetry.events = course.telemetry.events ++ more)
    (huse : ∀ event ∈ more, event.isSpanUse = true) : layer.Counted environ t last :=
  h.quiet last hactive hduration hmore fun event he =>
    ⟨Event.isMetric_eq_false_of_isSpanUse (huse event he),
      Event.start?_eq_none_of_isSpanUse (huse event he)⟩

theorem Counted.enter {course : Course} (h : layer.Counted environ t course) :
    layer.Counted environ t (enter course) := by
  obtain ⟨more, hmore, henter⟩ := course.request.enter_events course.telemetry
  refine h.spanUse _ rfl rfl hmore fun event he => ?_
  obtain ⟨number, rfl⟩ := henter event he
  rfl

theorem Counted.report {course : Course} (h : layer.Counted environ t course)
    {events : List Event} (hown : ∀ event ∈ events, event.isReport = true) :
    layer.Counted environ t (layer.move course (.report events)) := by
  refine h.quiet (layer.move course (.report events)) rfl rfl
    (course.telemetry.emitAll_events events) fun event he => ?_
  have hlate : event.isLate = true := by simp [Event.isLate, hown event he]
  exact ⟨Event.isMetric_eq_false_of_isLate hlate, Event.start?_eq_none_of_isReport (hown event he)⟩

/-- A start of the response is taken into the labels, whatever the server answers. -/
theorem Counted.respond {course : Course} {span : Span} (h : layer.Counted environ t course)
    (hspan : course.request.span = some span) (start : ResponseStart) :
    layer.Counted environ t (layer.move course (.respond start)) := by
  obtain ⟨new, hnew, hcount, hlabels⟩ := h.events
  obtain ⟨more, hmore, huse⟩ :=
    (layer.annotateSpan_reaches course.request.environ start span course.telemetry).events
  have hquiet : ∀ event ∈ more, event.isMetric = false ∧ event.start? = none := fun event he =>
    ⟨Event.isMetric_eq_false_of_isSpanUse (huse event he).1,
      Event.start?_eq_none_of_isSpanUse (huse event he).1⟩
  have hstarts : Event.starts (more ++ [.server course.server.request start]) = [start] := by
    rw [Event.starts_append, Event.starts_eq_nil fun event he => (hquiet event he).2]
    rfl
  have hcourse := layer.annotate_of_some hspan start course.telemetry
  refine ⟨?_, new ++ (more ++ [.server course.server.request start]), ?_, hcount.append ?_, ?_⟩
  · simp [move, hcourse, Request.label, h.activeLabels]
  · simp [move, hcourse, hmore, hnew]
  · intro event he
    rcases List.mem_append.mp he with he | he
    · exact (hquiet event he).1
    · rw [List.mem_singleton.mp he]
      rfl
  · rw [Event.starts_append, hstarts, durationLabels_append]
    simp [move, hcourse, Request.label, hlabels]

theorem Counted.move {course : Course} (h : layer.Counted environ t course)
    (hspan : course.request.span.isSome = true) {move : Move} (hown : move.IsOwn) :
    layer.Counted environ t (layer.move course move) := by
  cases move with
  | report events => exact h.report hown
  | respond start =>
    obtain ⟨span, hspan⟩ := Option.isSome_iff_exists.mp hspan
    exact h.respond hspan start

/-- A settled request has one duration, with the labels that the request had at its end. Ending the
request starts no response. -/
theorem Counted.settled {last course : Course} (h : layer.Counted environ t last) {span : Span}
    (hspan : last.request.span = some span) {status : Option SpanStatus} {late : List Event}
    (hevents : course.telemetry.events = (layer.conclude status last).telemetry.events ++ late)
    (hlate : ∀ event ∈ late, event.isLate = true) :
    ∃ new before after, last.telemetry.events = t.events ++ new ∧
      Event.starts before = Event.starts new ∧
      course.telemetry.events = t.events ++ (before ++
        layer.meter.duration none (layer.durationLabels environ (Event.starts before)) :: after) ∧
      ∀ event ∈ before ++ after, event.isDuration = false := by
  obtain ⟨new, hnew, hcount, hlabels⟩ := h.events
  obtain ⟨updates, ends, exports, hconclude, _, hupdates, hends, _⟩ :=
    layer.conclude_events hspan status
  have huse : ∀ event ∈ updates ++ ends, event.isSpanUse = true := fun event he =>
    (List.mem_append.mp he).elim (fun he => (hupdates event he).1)
      fun he => Event.isSpanUse_of_isSpanEnd (hends event he)
  have hstarts : Event.starts (new ++ (updates ++ ends)) = Event.starts new := by
    rw [Event.starts_append, Event.starts_eq_nil fun event he =>
      Event.start?_eq_none_of_isSpanUse (huse event he), List.append_nil]
  have hcountAll : layer.IsCount environ (new ++ (updates ++ ends)) :=
    hcount.append fun event he => Event.isMetric_eq_false_of_isSpanUse (huse event he)
  refine ⟨new, new ++ (updates ++ ends),
    layer.meter.active (-1) (layer.activeLabels environ) :: late, hnew, hstarts, ?_, ?_⟩
  · rw [hevents, hconclude, hnew, h.activeLabels, hlabels, hstarts]
    simp
  · intro event he
    rcases List.mem_append.mp he with he | he
    · simpa using List.countP_eq_zero.mp hcountAll.durations event he
    rcases List.mem_cons.mp he with rfl | he
    · simp
    · simpa using List.countP_eq_zero.mp (Event.countP_isDuration_of_isLate hlate) event he

/-- Whether some events tell of the settlement of a request, and of some starts of its response
before that. -/
def SettledAfter (layer : Layer) (starts : List ResponseStart) (events : List Event) : Prop :=
  ∃ before labels after, events = before ++ layer.meter.duration none labels :: after ∧
    (∀ event ∈ before ++ after, event.isDuration = false) ∧ Event.starts before = starts

theorem SettledAfter.starts_eq {starts : List ResponseStart} {events : List Event}
    (h : layer.SettledAfter starts events) :
    starts = Event.starts (events.takeWhile fun event => !event.isDuration) := by
  obtain ⟨before, labels, after, rfl, honce, rfl⟩ := h
  have hquiet : ∀ event ∈ before, (!event.isDuration) = true := fun event he => by
    simpa using honce event (List.mem_append_left _ he)
  rw [List.takeWhile_append_of_pos hquiet]
  simp

variable (layer environ t)

theorem isSome_span_move (course : Course) (move : Move) :
    (layer.move course move).request.span.isSome = course.request.span.isSome := by
  cases move with
  | report events => rfl
  | respond start =>
    cases hspan : course.request.span with
    | none => simp [Layer.move, layer.annotate_of_none hspan, Request.label, hspan]
    | some span => simp [Layer.move, layer.annotate_of_some hspan]

theorem keeps_counted : layer.Keeps fun course =>
    course.request.span.isSome = true ∧ layer.Counted environ t course where
  enter course h := ⟨h.1, h.2.enter⟩
  leave course before h :=
    ⟨h.1, h.2.spanUse { course with telemetry := before.leave course.telemetry } rfl rfl
      (by simp : _ = course.telemetry.events ++ []) (by simp)⟩
  move course move hown h :=
    ⟨(layer.isSome_span_move course move).trans h.1, h.2.move h.1 hown⟩
  fail course failure h := by
    let record := layer.failureRecord course.request.environ failure
    exact ⟨h.1, h.2.quiet { course with telemetry := course.telemetry.emit (.log record) } rfl rfl
      (course.telemetry.emit_events (.log record)) (by simp [Event.isMetric, Event.start?])⟩

theorem opening_counted (server : Server) :
    (layer.opening environ server t).request.span.isSome = true ∧
      layer.Counted environ t (layer.opening environ server t) := by
  obtain ⟨new, hready, hquiet⟩ := layer.readied_events environ t
  refine ⟨by simp [opening, begin_eq], by simp [opening, begin_eq],
    new ++ [layer.meter.active 1 (layer.activeLabels environ)],
    by simp [opening, begin_eq, hready],
    ⟨new, [], rfl, fun event he => (hquiet event (by simpa using he)).1⟩, ?_⟩
  rw [layer.starts_counted hready]
  simp [opening, begin_eq]

end Layer

end RequestTracing
