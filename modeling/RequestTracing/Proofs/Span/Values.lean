import RequestTracing.Proofs.Dictionary.Lookup
import RequestTracing.Proofs.Span.Updates
import RequestTracing.Tracer
/-!
The values of attributes that were set on a span. A value is known from the span where that keeps
it, and otherwise from the events.
-/
namespace RequestTracing

/-- The value that an event tells was set under a name on an observed span. -/
def Event.value? (number : Nat) (name : String) : Event → Option AttributeValue
  | .setAttribute span key value => if span = number ∧ key = name then some value else none
  | _ => none

@[simp] theorem Meter.value?_active (meter : Meter) (delta : Int) (labels : Attributes)
    (number : Nat) (name : String) : (meter.active delta labels).value? number name = none := by
  cases meter <;> rfl

/-- The values of a name among attributes that were set one after the other. -/
def valuesOf (name : String) (attributes : List (String × AttributeValue)) : List AttributeValue :=
  attributes.filterMap fun (key, value) => if key = name then some value else none

@[simp] theorem valuesOf_append (name : String) (first second : List (String × AttributeValue)) :
    valuesOf name (first ++ second) = valuesOf name first ++ valuesOf name second := by
  simp [valuesOf]

theorem valuesOf_eq_nil {name : String} {attributes : List (String × AttributeValue)}
    (h : ∀ entry ∈ attributes, entry.1 ≠ name) : valuesOf name attributes = [] :=
  List.filterMap_eq_nil_iff.mpr fun entry he => if_neg (h entry he)

/-- The value of the last attribute of a name among those that were set one after the other. -/
def lastValue? (name : String) (attributes : List (String × AttributeValue)) :
    Option AttributeValue :=
  (attributes.filterMap fun (key, value) => if key = name then some value else none).getLast?

theorem lastValue?_append (name key : String) (value : AttributeValue)
    (attributes : List (String × AttributeValue)) :
    lastValue? name (attributes ++ [(key, value)]) =
      if key = name then some value else lastValue? name attributes := by
  unfold lastValue?
  by_cases hkey : key = name <;> simp [hkey]

theorem valuesOf_entries {name : String} {attributes : Attributes}
    (h : attributes.get? name = none) : valuesOf name attributes.entries = [] := by
  unfold Dictionary.get? at h
  rw [Option.map_eq_none_iff, List.find?_eq_none] at h
  refine valuesOf_eq_nil fun entry he => ?_
  simpa using h entry he

theorem lastValue?_entries {name : String} {attributes : Attributes}
    (h : attributes.get? name = none) : lastValue? name attributes.entries = none :=
  congrArg List.getLast? (valuesOf_entries h)

namespace Span

/-- The value of an attribute that was set last on a span, in the course of some events. -/
def value? (span : Span) (events : List Event) (name : String) : Option AttributeValue :=
  match span with
  | .observed number _ => (events.filterMap (Event.value? number name)).getLast?
  | .logged span => span.attributes.get? name
  | .distributed span => span.record.bind fun record => lastValue? name record.attributes

/-- Whether the uses of a span are events. -/
def isObserved : Span → Bool
  | .observed _ _ => true
  | _ => false

@[simp] theorem isRecording_emit (span : Span) (t : Telemetry) (event : Event) :
    span.isRecording (t.emit event) = span.isRecording t := by
  cases span <;> rfl

theorem value?_append (span : Span) (name : String) {more : List Event}
    (h : ∀ event ∈ more, ∀ number, event.value? number name = none) (events : List Event) :
    span.value? (events ++ more) name = span.value? events name := by
  cases span with
  | observed number kind =>
    have hnone : more.filterMap (Event.value? number name) = [] :=
      List.filterMap_eq_nil_iff.mpr fun event he => h event he number
    simp [value?, hnone]
  | logged span => rfl
  | distributed span => rfl

/-- Whether an update leaves a span keeping updates, and the value of an attribute as it is. -/
def Spares (name : String) (observed : Bool) (action : SpanAction) : Prop :=
  action ≠ .finish ∧ (∀ value, action ≠ .setAttribute name value) ∧
    (observed = true → action ≠ .setRecording false)

/-- Whether a span keeps updates after what was done to it, and an attribute has the given value or
else that from before. -/
structure Sets (name : String) (value : Option AttributeValue) (start last : Span × Telemetry) :
    Prop where
  recording : last.1.isRecording last.2 = true
  observed : last.1.isObserved = start.1.isObserved
  value : ∃ more, last.2.events = start.2.events ++ more ∧
    ∀ events, last.1.value? (events ++ more) name = (value <|> start.1.value? events name)

variable {name : String}

theorem Sets.refl {start : Span × Telemetry} (h : start.1.isRecording start.2 = true) :
    Sets name none start start :=
  ⟨h, rfl, [], by simp, by simp⟩

theorem Sets.trans {value other : Option AttributeValue} {start middle last : Span × Telemetry}
    (h : Sets name value start middle) (rest : Sets name other middle last) :
    Sets name (other <|> value) start last := by
  obtain ⟨more, hmore, hvalue⟩ := h.value
  obtain ⟨others, hothers, hother⟩ := rest.value
  refine ⟨rest.recording, rest.observed.trans h.observed, more ++ others, ?_, fun events => ?_⟩
  · rw [hothers, hmore, List.append_assoc]
  · rw [← List.append_assoc, hother, hvalue]
    cases other <;> simp

variable {span : Span} {t : Telemetry} (h : span.isRecording t = true)

include h

theorem setAttribute_sets (name key : String) (value : AttributeValue) :
    Sets name (if key = name then some value else none) (span, t)
      (span.setAttribute key value t) := by
  cases span with
  | observed number kind =>
    refine ⟨h, rfl, [.setAttribute number key value], rfl, fun events => ?_⟩
    by_cases hkey : key = name <;> simp [setAttribute, value?, Event.value?, hkey]
  | logged span =>
    have hended : span.ended = false := by simpa [isRecording, LoggedSpan.isRecording] using h
    refine ⟨by simp [setAttribute, isRecording, LoggedSpan.isRecording, hended], rfl, [],
      by simp [setAttribute], fun events => ?_⟩
    by_cases hkey : key = name <;>
      simp [setAttribute, value?, LoggedSpan.setAttribute, hended, Dictionary.get?_insert, hkey]
  | distributed span =>
    have hsome : span.record.isSome = true := h
    obtain ⟨record, hrecord⟩ := Option.isSome_iff_exists.mp hsome
    refine ⟨by simpa [setAttribute, isRecording, DistributedSpan.isRecording] using hsome, rfl, [],
      by simp [setAttribute], fun events => ?_⟩
    by_cases hkey : key = name <;>
      simp [setAttribute, value?, DistributedSpan.setAttribute, hrecord, lastValue?_append, hkey]

theorem setStatus_sets (status : SpanStatus) :
    Sets name none (span, t) (span.setStatus status t) := by
  cases span with
  | observed number kind =>
    exact ⟨h, rfl, [.setStatus number status], rfl, by simp [setStatus, value?, Event.value?]⟩
  | logged span =>
    have hended : span.ended = false := by simpa [isRecording, LoggedSpan.isRecording] using h
    exact ⟨by simp [setStatus, isRecording, LoggedSpan.isRecording, hended], rfl, [],
      by simp [setStatus], by simp [setStatus, value?, LoggedSpan.setStatus, hended]⟩
  | distributed span =>
    have hsome : span.record.isSome = true := h
    obtain ⟨record, hrecord⟩ := Option.isSome_iff_exists.mp hsome
    refine ⟨by simpa [setStatus, isRecording, DistributedSpan.isRecording] using hsome, rfl, [],
      by simp [setStatus], fun events => ?_⟩
    cases hrank : status.outranks record.status <;>
      simp [setStatus, value?, DistributedSpan.setStatus, hrecord, hrank]

theorem act_sets {action : SpanAction} (hspares : Spares name span.isObserved action) :
    Sets name none (span, t) (span.act action t) := by
  obtain ⟨hfinish, hattribute, hrecording⟩ := hspares
  cases action with
  | finish => exact absurd rfl hfinish
  | setAttribute key value =>
    have hkey : key ≠ name := fun hkey => hattribute value (by rw [hkey])
    have hsets : Sets name (if key = name then some value else none) (span, t)
        (span.act (.setAttribute key value) t) := setAttribute_sets h name key value
    rwa [if_neg hkey] at hsets
  | setStatus status => exact setStatus_sets h status
  | setRecording on =>
    refine ⟨?_, rfl, [], by simp [act], by simp [act]⟩
    cases span with
    | observed number kind =>
      have hon : on = true := by simpa [isObserved] using hrecording
      exact hon
    | logged span => exact h
    | distributed span => exact h

omit h

theorem Reaches.sets {allowed : SpanAction → Prop} {start last : Span × Telemetry}
    (h : Reaches allowed start last) (hstart : start.1.isRecording start.2 = true)
    (hspares : ∀ action, allowed action → Spares name start.1.isObserved action) :
    Sets name none start last := by
  induction h with
  | refl => exact .refl hstart
  | @act span t action allows _ ih =>
    have hobserved : span.isObserved = start.1.isObserved := ih.observed
    exact ih.trans (act_sets ih.recording (hobserved ▸ hspares action allows))
  | @hook span t event isHook _ ih =>
    have hemit : Sets name none (span, t) (span, t.emit event) := by
      refine ⟨(span.isRecording_emit t event).trans ih.recording, rfl, [event], rfl,
        fun events => ?_⟩
      rcases isHook with rfl | rfl <;> cases span <;> simp [value?, Event.value?]
    exact ih.trans hemit

end Span

/-- A span is started with the attributes given for it and no others. -/
theorem Tracer.start_value? (tracer : Tracer) (spanName : String) {attributes : Attributes}
    (environ : Environ) (t : Telemetry) {name : String} (h : attributes.get? name = none) :
    ∃ new, (tracer.start spanName attributes environ t).2.events = t.events ++ new ∧
      (tracer.start spanName attributes environ t).1.value? new name = none := by
  cases tracer with
  | observer kind => exact ⟨[_], rfl, rfl⟩
  | log => exact ⟨[_], rfl, h⟩
  | distributed exporting own =>
    refine ⟨[], ?_, ?_⟩
    all_goals
      cases exporting with
      | false => simp [start, DistributedSpan.startPassive, Span.value?]
      | true =>
        cases hparent : (parent (own.getD t.propagator) environ t).1 with
        | none =>
          simp [start, DistributedSpan.start, Span.value?, hparent, lastValue?_entries h]
        | some context =>
          cases hsampled : context.isSampled <;>
            simp [start, DistributedSpan.start, Span.value?, hparent, hsampled,
              lastValue?_entries h]

end RequestTracing
