import RequestTracing.Proofs.Span.Values
import RequestTracing.Span.Response
/-!
Spans that do not report their uses. What an update makes of such a span depends on the span alone,
and nothing else changes.
-/
namespace RequestTracing

namespace Span

variable {span : Span}

theorem isRecording_of_unobserved (h : span.isObserved = false) (t other : Telemetry) :
    span.isRecording t = span.isRecording other := by
  cases span with
  | observed number kind => simp [isObserved] at h
  | logged span => rfl
  | distributed span => rfl

/-- Whether an update of a span that does not report its uses depends on the span alone, leaves the
state around it as it is, and leaves the span keeping updates or not as before. -/
def IsDiscreet (update : Span → Telemetry → Span × Telemetry) : Prop :=
  ∀ span : Span, span.isObserved = false → ∃ next : Span, next.isObserved = false ∧
    (∀ t, next.isRecording t = span.isRecording t) ∧ ∀ t, update span t = (next, t)

theorem isDiscreet_keep : IsDiscreet Prod.mk :=
  fun span h => ⟨span, h, fun _ => rfl, fun _ => rfl⟩

theorem IsDiscreet.comp {first second : Span → Telemetry → Span × Telemetry}
    (h : IsDiscreet first) (hother : IsDiscreet second) :
    IsDiscreet fun span t => second (first span t).1 (first span t).2 := by
  intro span hspan
  obtain ⟨middle, hmiddle, hrecording, hfirst⟩ := h span hspan
  obtain ⟨last, hlast, hmore, hsecond⟩ := hother middle hmiddle
  refine ⟨last, hlast, fun t => (hmore t).trans (hrecording t), fun t => ?_⟩
  simp only [hfirst, hsecond]

theorem IsDiscreet.look {updates : Bool → SpanKind → Span → Telemetry → Span × Telemetry}
    (h : ∀ recording kind, IsDiscreet (updates recording kind)) :
    IsDiscreet fun span t => updates (span.isRecording t) span.kind span t := by
  intro span hspan
  obtain ⟨next, hnext, hrecording, hupdate⟩ := h (span.isRecording {}) span.kind span hspan
  refine ⟨next, hnext, hrecording, fun t => ?_⟩
  have hsame : span.isRecording t = span.isRecording {} := isRecording_of_unobserved hspan t {}
  simp only [hsame, hupdate]

theorem isDiscreet_setAttribute (name : String) (value : AttributeValue) :
    IsDiscreet fun span => span.setAttribute name value := by
  intro span hspan
  cases span with
  | observed number kind => simp [isObserved] at hspan
  | logged span =>
    refine ⟨.logged (span.setAttribute name value), rfl, fun t => ?_, fun t => rfl⟩
    simp [isRecording, LoggedSpan.isRecording]
  | distributed span =>
    refine ⟨.distributed (span.setAttribute name value), rfl, fun t => ?_, fun t => rfl⟩
    simp [isRecording, DistributedSpan.isRecording]

theorem isDiscreet_setStatus (status : SpanStatus) :
    IsDiscreet fun span => span.setStatus status := by
  intro span hspan
  cases span with
  | observed number kind => simp [isObserved] at hspan
  | logged span =>
    refine ⟨.logged (span.setStatus status), rfl, fun t => ?_, fun t => rfl⟩
    simp [isRecording, LoggedSpan.isRecording]
  | distributed span =>
    refine ⟨.distributed (span.setStatus status), rfl, fun t => ?_, fun t => rfl⟩
    simp [isRecording, DistributedSpan.isRecording]

/-- Whether an update notes something on a span, and neither ends the span nor turns the keeping of
updates on or off. -/
def IsNote : SpanAction → Prop
  | .setAttribute _ _ | .setStatus _ => True
  | .finish | .setRecording _ => False

theorem isClosed_isDiscreet : IsClosed IsNote IsDiscreet where
  keep := isDiscreet_keep
  act action h := by
    cases action with
    | setAttribute name value => exact isDiscreet_setAttribute name value
    | setStatus status => exact isDiscreet_setStatus status
    | finish => exact h.elim
    | setRecording on => exact h.elim
  comp := .comp
  look := .look

theorem isDiscreet_applyStatus (line : String) :
    IsDiscreet fun span => span.applyStatus line :=
  isClosed_isDiscreet.applyStatus line (fun _ => trivial) fun _ => trivial

theorem isDiscreet_setHeaders (headers : Attributes) : IsDiscreet (Layer.setHeaders headers) :=
  isClosed_isDiscreet.setHeaders fun _ _ => trivial

theorem setStatus_of_not_isRecording (hspan : span.isObserved = false) {t : Telemetry}
    (h : span.isRecording t = false) (status : SpanStatus) :
    span.setStatus status t = (span, t) := by
  cases span with
  | observed number kind => simp [isObserved] at hspan
  | logged span =>
    have hended : span.ended = true := by simpa [isRecording, LoggedSpan.isRecording] using h
    simp [setStatus, LoggedSpan.setStatus, hended]
  | distributed span =>
    have hrecord : span.record = none := by
      simpa [isRecording, DistributedSpan.isRecording] using h
    cases span
    cases hrecord
    rfl

/-- The signs of the end of a span that does not report its uses depend on the span alone. -/
theorem finish_of_unobserved (span : Span) (hspan : span.isObserved = false) :
    ∃ ends exports, ∀ t, (span.finish t).2.events = t.events ++ ends ∧
      (span.finish t).2.exported = t.exported ++ exports := by
  cases span with
  | observed number kind => simp [isObserved] at hspan
  | logged span =>
    cases hended : span.ended with
    | true => exact ⟨[], [], fun t => by simp [finish, LoggedSpan.finish, hended]⟩
    | false =>
      exact ⟨[.log span.endRecord], [], fun t => by
        simp [finish, LoggedSpan.finish, hended, Telemetry.emit]⟩
  | distributed span =>
    cases hrecord : span.record with
    | none => exact ⟨[], [], fun t => by simp [finish, DistributedSpan.finish, hrecord]⟩
    | some record =>
      exact ⟨[], [_], fun t => by
        simp only [finish, DistributedSpan.finish, hrecord, List.append_nil]
        exact ⟨trivial, rfl⟩⟩

end Span

end RequestTracing
