import RequestTracing.Proofs.Program.Secluded
import RequestTracing.Proofs.Span.Updates
/-!
Numbers of spans do not matter. A span that is never made current does the same under any number, up
to that number in what it reports.
-/
namespace RequestTracing

def Event.renumber (shift : Nat) : Event → Event
  | .startSpan number name attributes carrier =>
    .startSpan (number + shift) name attributes carrier
  | .setAttribute number name value => .setAttribute (number + shift) name value
  | .setStatus number status => .setStatus (number + shift) status
  | .endSpan number => .endSpan (number + shift)
  | .enterSpan number => .enterSpan (number + shift)
  | event => event

namespace Event

variable (shift : Nat)

theorem renumber_of_isReport {event : Event} (h : event.isReport = true) :
    event.renumber shift = event := by
  cases event <;> simp_all [isReport, renumber]

theorem renumber_of_isMetric {event : Event} (h : event.isMetric = true) :
    event.renumber shift = event := by
  cases event <;> simp_all [isMetric, renumber]

theorem map_renumber_of_isReport {events : List Event}
    (h : ∀ event ∈ events, event.isReport = true) : events.map (renumber shift) = events := by
  have hsame := List.map_congr_left fun event he => renumber_of_isReport shift (h event he)
  simpa using hsame

end Event

namespace Span

def renumber (shift : Nat) : Span → Span
  | .observed number kind => .observed (number + shift) kind
  | span => span

@[simp] theorem isAttached_renumber (shift : Nat) (span : Span) :
    (span.renumber shift).isAttached = span.isAttached := by
  cases span <;> rfl

@[simp] theorem kind_renumber (shift : Nat) (span : Span) :
    (span.renumber shift).kind = span.kind := by
  cases span <;> rfl

theorem isRecording_renumber (span : Span) (shift : Nat) {t other : Telemetry}
    (h : t.surroundings = other.surroundings) :
    (span.renumber shift).isRecording t = span.isRecording other := by
  cases span with
  | observed number kind => exact congrArg Surroundings.recording h
  | logged span => rfl
  | distributed span => rfl

/-- Whether all that comes of an update of a span, when the span is not made current, are the span
and some events, and these depend on nothing but the span and its surroundings, up to the number of
the span. -/
def IsLocal (around : Surroundings) (update : Span → Telemetry → Span × Telemetry) : Prop :=
  ∀ span : Span, span.isAttached = false → ∃ (next : Span) (events : List Event),
    next.isAttached = false ∧ ∀ shift t, t.surroundings = around → update (span.renumber shift) t =
      (next.renumber shift, t.emitAll (events.map (Event.renumber shift)))

variable {around : Surroundings}

theorem isLocal_keep : IsLocal around Prod.mk :=
  fun span h => ⟨span, [], h, fun _ _ _ => rfl⟩

theorem IsLocal.comp {first second : Span → Telemetry → Span × Telemetry}
    (h : IsLocal around first) (hother : IsLocal around second) :
    IsLocal around fun span t => second (first span t).1 (first span t).2 := by
  intro span hspan
  obtain ⟨middle, events, hmiddle, hfirst⟩ := h span hspan
  obtain ⟨last, more, hlast, hsecond⟩ := hother middle hmiddle
  refine ⟨last, events ++ more, hlast, fun shift t ht => ?_⟩
  have hbetween : (t.emitAll (events.map (Event.renumber shift))).surroundings = around := by
    simpa using ht
  simp only [hfirst shift t ht, hsecond shift _ hbetween, Telemetry.emitAll_emitAll,
    List.map_append]

theorem IsLocal.look {updates : Bool → SpanKind → Span → Telemetry → Span × Telemetry}
    (h : ∀ recording kind, IsLocal around (updates recording kind)) :
    IsLocal around fun span t => updates (span.isRecording t) span.kind span t := by
  -- What a span shows is fixed by its surroundings, so one choice serves for all numbers.
  intro span hspan
  obtain ⟨next, events, hnext, hupdate⟩ :=
    h (span.isRecording (.within around)) span.kind span hspan
  refine ⟨next, events, hnext, fun shift t ht => ?_⟩
  have hrecording : (span.renumber shift).isRecording t = span.isRecording (.within around) :=
    span.isRecording_renumber shift ht
  simp only [hrecording, kind_renumber, hupdate shift t ht]

theorem isLocal_finish : IsLocal around finish := by
  intro span hspan
  cases span with
  | observed number kind =>
    exact ⟨.observed number kind, [.endSpan number], rfl, fun shift t _ => rfl⟩
  | logged span =>
    cases hended : span.ended with
    | true =>
      refine ⟨.logged span, [], rfl, fun shift t _ => ?_⟩
      simp [renumber, finish, LoggedSpan.finish, hended, Telemetry.emitAll]
    | false =>
      refine ⟨.logged { span with ended := true }, [.log span.endRecord], rfl, fun shift t _ => ?_⟩
      simp [renumber, finish, LoggedSpan.finish, hended, Telemetry.emitAll, Event.renumber]
  | distributed span => simp [isAttached] at hspan

/-- Of all updates, only turning the keeping of updates on or off changes what other spans do. -/
theorem isLocal_act (action : SpanAction) (h : ∀ on, action ≠ .setRecording on) :
    IsLocal around fun span => span.act action := by
  cases action with
  | setRecording on => exact absurd rfl (h on)
  | finish => exact isLocal_finish
  | setAttribute name value =>
    intro span hspan
    cases span with
    | observed number kind =>
      exact ⟨.observed number kind, [.setAttribute number name value], rfl, fun _ _ _ => rfl⟩
    | logged span =>
      exact ⟨.logged (span.setAttribute name value), [], rfl, fun _ _ _ => rfl⟩
    | distributed span => simp [isAttached] at hspan
  | setStatus status =>
    intro span hspan
    cases span with
    | observed number kind =>
      exact ⟨.observed number kind, [.setStatus number status], rfl, fun _ _ _ => rfl⟩
    | logged span => exact ⟨.logged (span.setStatus status), [], rfl, fun _ _ _ => rfl⟩
    | distributed span => simp [isAttached] at hspan

theorem isClosed_isLocal :
    IsClosed (fun action => ∀ on, action ≠ .setRecording on) (IsLocal around) where
  keep := isLocal_keep
  act := isLocal_act
  comp := .comp
  look := .look

end Span

end RequestTracing
