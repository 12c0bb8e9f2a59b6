import RequestTracing.Proofs.Program.Moves
import RequestTracing.Span.Logged
import RequestTracing.Meter
/-!
Kinds of events: those that tell of the end of a span, those that tell of any use of a span, those
that measure, and those by which the server is told to start a response.
-/
namespace RequestTracing

/-- Whether a record tells of the end of a span. -/
def LogRecord.isSpanEnd (record : LogRecord) : Bool :=
  record.target == LoggedSpan.target &&
    (record.message == "span ended" || record.message == "span ended with error")

@[simp] theorem LoggedSpan.isSpanEnd_endRecord (span : LoggedSpan) :
    span.endRecord.isSpanEnd = true := by
  cases hstatus : span.status <;> simp [endRecord, hstatus, LogRecord.isSpanEnd]

namespace Event

def isSpanEnd : Event → Bool
  | .endSpan _ => true
  | .log record => record.isSpanEnd
  | _ => false

/-- Whether an event tells that a span was used after its start: entered, updated, handed to a hook
or ended. -/
def isSpanUse : Event → Bool
  | .setAttribute _ _ _ | .setStatus _ _ | .enterSpan _ | .requestHook | .responseHook => true
  | event => event.isSpanEnd

/-- Whether an event tells that something was noted on a span: an attribute or an outcome. -/
def isSpanUpdate : Event → Bool
  | .setAttribute _ _ _ | .setStatus _ _ => true
  | _ => false

def isDuration : Event → Bool
  | .duration _ | .histogram _ _ _ => true
  | _ => false

/-- Whether an event is a change of the number of active requests by some amount. -/
def isActive (delta : Int) : Event → Bool
  | .active change _ | .gauge _ _ change => change == delta
  | _ => false

def isMetric : Event → Bool
  | .active _ _ | .gauge _ _ _ | .duration _ | .histogram _ _ _ => true
  | _ => false

/-- The start of a response of which the server was told. -/
def start? : Event → Option ResponseStart
  | .server _ start => some start
  | _ => none

/-- Whether an event may also come after the end of a request. -/
def isLate (event : Event) : Bool :=
  event.isReport || event.start?.isSome

theorem isSpanUse_of_isSpanEnd {event : Event} (h : event.isSpanEnd = true) :
    event.isSpanUse = true := by
  cases event <;> simp_all [isSpanUse, isSpanEnd]

theorem isMetric_of_isDuration {event : Event} (h : event.isDuration = true) :
    event.isMetric = true := by
  cases event <;> simp_all [isDuration, isMetric]

theorem isMetric_of_isActive {delta : Int} {event : Event} (h : event.isActive delta = true) :
    event.isMetric = true := by
  cases event <;> simp_all [isActive, isMetric]

theorem isMetric_eq_false_of_isSpanUse {event : Event} (h : event.isSpanUse = true) :
    event.isMetric = false := by
  cases event <;> simp_all [isSpanUse, isSpanEnd, isMetric]

theorem start?_eq_none_of_isSpanUse {event : Event} (h : event.isSpanUse = true) :
    event.start? = none := by
  cases event <;> simp_all [isSpanUse, isSpanEnd, start?]

theorem isMetric_eq_false_of_isLate {event : Event} (h : event.isLate = true) :
    event.isMetric = false := by
  cases event <;> simp_all [isLate, isReport, start?, isMetric]

theorem isSpanUse_eq_false_of_isLate {event : Event} (h : event.isLate = true) :
    event.isSpanUse = false := by
  cases event <;> simp_all [isLate, isReport, start?, isSpanUse, isSpanEnd]

theorem start?_eq_none_of_isReport {event : Event} (h : event.isReport = true) :
    event.start? = none := by
  cases event <;> simp_all [isReport, start?]

theorem start?_eq_none_of_isMetric {event : Event} (h : event.isMetric = true) :
    event.start? = none := by
  cases event <;> simp_all [isMetric, start?]

theorem isSpanEnd_eq_false {event : Event} (h : event.isSpanUse = false) :
    event.isSpanEnd = false := by
  refine Bool.eq_false_iff.mpr fun hend => ?_
  rw [isSpanUse_of_isSpanEnd hend] at h
  contradiction

theorem isSpanUpdate_eq_false {event : Event} (h : event.isSpanUse = false) :
    event.isSpanUpdate = false := by
  cases event <;> simp_all [isSpanUse, isSpanUpdate]

section Late

variable {events : List Event} (h : ∀ event ∈ events, event.isLate = true)

include h

theorem countP_isSpanEnd_of_isLate : events.countP isSpanEnd = 0 := by
  refine List.countP_eq_zero.mpr fun event he => ?_
  simp [isSpanEnd_eq_false (isSpanUse_eq_false_of_isLate (h event he))]

theorem countP_isDuration_of_isLate : events.countP isDuration = 0 := by
  refine List.countP_eq_zero.mpr fun event he hduration => ?_
  have hmetric := isMetric_of_isDuration hduration
  rw [isMetric_eq_false_of_isLate (h event he)] at hmetric
  contradiction

theorem filter_isActive_of_isLate (delta : Int) : events.filter (isActive delta) = [] := by
  refine List.filter_eq_nil_iff.mpr fun event he hactive => ?_
  have hmetric := isMetric_of_isActive hactive
  rw [isMetric_eq_false_of_isLate (h event he)] at hmetric
  contradiction

end Late

def starts (events : List Event) : List ResponseStart :=
  events.filterMap start?

@[simp] theorem starts_append (first second : List Event) :
    starts (first ++ second) = starts first ++ starts second := by
  simp [starts]

theorem starts_eq_nil {events : List Event} (h : ∀ event ∈ events, event.start? = none) :
    starts events = [] :=
  List.filterMap_eq_nil_iff.mpr h

end Event

namespace Meter

variable (meter : Meter) (delta : Int) (labels : Attributes)

@[simp] theorem isMetric_active : (meter.active delta labels).isMetric = true := by
  cases meter <;> rfl

@[simp] theorem isMetric_duration (value : Option Nat) :
    (meter.duration value labels).isMetric = true := by
  cases meter <;> rfl

@[simp] theorem isActive_active (other : Int) :
    (meter.active delta labels).isActive other = (delta == other) := by
  cases meter <;> rfl

@[simp] theorem isActive_duration (other : Int) (value : Option Nat) :
    (meter.duration value labels).isActive other = false := by
  cases meter <;> rfl

@[simp] theorem isSpanUse_active : (meter.active delta labels).isSpanUse = false := by
  cases meter <;> rfl

@[simp] theorem isSpanUse_duration (value : Option Nat) :
    (meter.duration value labels).isSpanUse = false := by
  cases meter <;> rfl

@[simp] theorem isDuration_active : (meter.active delta labels).isDuration = false := by
  cases meter <;> rfl

@[simp] theorem isDuration_duration (value : Option Nat) :
    (meter.duration value labels).isDuration = true := by
  cases meter <;> rfl

end Meter

end RequestTracing
