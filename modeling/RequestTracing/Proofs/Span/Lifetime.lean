import Mathlib.Data.List.Basic
import Mathlib.Data.List.Induction
import RequestTracing.Proofs.Dictionary.Listing
import RequestTracing.Proofs.Span.Logged
import RequestTracing.Proofs.Span.Values
/-!
The life of a span that is written to the log. Until it is ended for the first time it takes up all
that is set on it, and nothing is logged. That end is logged, and from then on nothing that is done
with the span has an effect.
-/
namespace RequestTracing

/-- What can be done with a span after its start. -/
inductive SpanOperation where
  | setAttribute (name : String) (value : AttributeValue)
  | setAttributes (attributes : Attributes)
  | setStatus (status : SpanStatus)
  | finish
  deriving DecidableEq

namespace SpanOperation

def attributes : SpanOperation → List (String × AttributeValue)
  | .setAttribute name value => [(name, value)]
  | .setAttributes attributes => attributes.entries
  | .setStatus _ | .finish => []

def status? : SpanOperation → Option SpanStatus
  | .setStatus status => some status
  | .setAttribute _ _ | .setAttributes _ | .finish => none

/-- The operations before the first end. -/
def untilEnd (operations : List SpanOperation) : List SpanOperation :=
  operations.takeWhile (· ≠ .finish)

end SpanOperation

namespace Span

/-- Carries out an operation. -/
def operate (span : Span) (operation : SpanOperation) (t : Telemetry) : Span × Telemetry :=
  match operation with
  | .setAttribute name value => span.setAttribute name value t
  | .setAttributes attributes => span.setAttributes attributes t
  | .setStatus status => span.setStatus status t
  | .finish => span.finish t

def operateAll (span : Span) (operations : List SpanOperation) (t : Telemetry) : Span × Telemetry :=
  operations.foldl (fun (span, t) operation => span.operate operation t) (span, t)

end Span

/-- Whether attributes are what some that were set one after the other come to: each name is there
once, in the order of the bytes, with the value that was set last. -/
structure Attributes.KeepsLastOf (attributes : Attributes)
    (written : List (String × AttributeValue)) : Prop where
  ascending : attributes.entries.Pairwise fun entry next => Text.bytes entry.1 < Text.bytes next.1
  values : ∀ name value, (name, value) ∈ attributes.entries ↔ lastValue? name written = some value

/-- A name has the value that was put in last, or else the one that it had before. -/
theorem Attributes.get?_insertAll_eq_lastValue? (attributes : Attributes)
    (written : List (String × AttributeValue)) (name : String) :
    (attributes.insertAll written).get? name =
      lastValue? name (attributes.entries ++ written) := by
  induction written using List.reverseRecOn with
  | nil =>
    have hnone : attributes.insertAll [] = attributes := rfl
    rw [hnone, List.append_nil, lastValue?, attributes.filterMap_entries name]
    cases attributes.get? name <;> rfl
  | append_singleton written entry ih =>
    obtain ⟨key, value⟩ := entry
    have hlast : attributes.insertAll (written ++ [(key, value)]) =
        (attributes.insertAll written).insert key value := List.foldl_append
    rw [hlast, Dictionary.get?_insert, ih, ← List.append_assoc, lastValue?_append]

theorem Attributes.keepsLastOf_insertAll (attributes : Attributes)
    (written : List (String × AttributeValue)) :
    Attributes.KeepsLastOf (attributes.insertAll written) (attributes.entries ++ written) where
  ascending := Dictionary.pairwise_bytes _
  values name value := by
    rw [← Dictionary.get?_eq_some_iff, get?_insertAll_eq_lastValue?]

/-- The description of the failure that some outcomes set one after the other come to, if the last
one is a failure. -/
def SpanStatus.lastFailure? (statuses : List SpanStatus) : Option String :=
  match statuses.getLast? with
  | some (.error description) => some description
  | _ => none

/-- Whether a record tells of the end of a span: as a warning with the description of its failure,
or as information if it has not failed, and in both cases with its name and its attributes. -/
structure LogRecord.TellsEnd (record : LogRecord) (name : String) (failure? : Option String)
    (attributes : Attributes) : Prop where
  target : record.target = "environ_trace::span"
  level : record.level = if failure?.isSome then .warn else .info
  message : record.message = if failure?.isSome then "span ended with error" else "span ended"
  fields : record.fields =
    [{ name := "span", value := name }] ++
    (failure?.map fun description => { name := "error", value := description }).toList ++
    [{ name := "attributes"
       value := " ".intercalate
         (attributes.entries.map fun (name, value) => name ++ "=" ++ value.display) }]

namespace LoggedSpan

variable (span : LoggedSpan)

def note (operation : SpanOperation) : LoggedSpan :=
  { span with
    attributes := span.attributes.insertAll operation.attributes
    status := operation.status?.getD span.status }

def noteEach (operations : List SpanOperation) : LoggedSpan :=
  operations.foldl note span

theorem noteEach_eq (operations : List SpanOperation) : span.noteEach operations = { span with
    attributes := span.attributes.insertAll (operations.flatMap SpanOperation.attributes)
    status := (operations.filterMap SpanOperation.status?).getLast?.getD span.status } := by
  induction operations generalizing span with
  | nil => rfl
  | cons operation operations ih =>
    have hstep : span.noteEach (operation :: operations) =
        (span.note operation).noteEach operations := rfl
    rw [hstep, ih]
    simp only [note, List.flatMap_cons, Dictionary.insertAll, List.foldl_append]
    cases hstatus : operation.status? <;> simp [hstatus, List.getLast?_cons]

theorem endRecord_tellsEnd {statuses : List SpanStatus}
    (h : span.status = statuses.getLast?.getD .unset) :
    span.endRecord.TellsEnd span.name (SpanStatus.lastFailure? statuses) span.attributes := by
  unfold endRecord SpanStatus.lastFailure?
  rw [h]
  cases statuses.getLast? with
  | none => exact ⟨rfl, rfl, rfl, rfl⟩
  | some status => cases status <;> exact ⟨rfl, rfl, rfl, rfl⟩

end LoggedSpan

namespace Span

variable {span : LoggedSpan}

/-- Before its end a span notes every operation that does not end it, and nothing is logged. -/
theorem operate_of_open (h : span.ended = false) {operation : SpanOperation}
    (hnote : operation ≠ .finish) (t : Telemetry) :
    (logged span).operate operation t = (.logged (span.note operation), t) := by
  cases operation with
  | setAttribute name value =>
    simp [operate, setAttribute, LoggedSpan.setAttribute, LoggedSpan.note,
      SpanOperation.attributes, SpanOperation.status?, Dictionary.insertAll, h]
  | setAttributes attributes => exact setAttributes_logged h attributes t
  | setStatus status =>
    simp [operate, setStatus, LoggedSpan.setStatus, LoggedSpan.note, SpanOperation.attributes,
      SpanOperation.status?, Dictionary.insertAll, h]
  | finish => exact absurd rfl hnote

theorem finish_of_open (h : span.ended = false) (t : Telemetry) :
    (logged span).operate .finish t =
      (.logged { span with ended := true }, t.emit (.log span.endRecord)) := by
  simp [operate, finish, LoggedSpan.finish, h]

theorem operate_of_ended (h : span.ended = true) (operation : SpanOperation) (t : Telemetry) :
    (logged span).operate operation t = (.logged span, t) := by
  have hset (name : String) (value : AttributeValue) :
      (logged span).setAttribute name value t = (.logged span, t) := by
    simp [setAttribute, LoggedSpan.setAttribute, h]
  cases operation with
  | setAttribute name value => exact hset name value
  | setAttributes attributes =>
    exact List.foldl_fixed' (fun entry => hset entry.1 entry.2) attributes.entries
  | setStatus status => simp [operate, setStatus, LoggedSpan.setStatus, h]
  | finish => simp [operate, finish, LoggedSpan.finish, h]

theorem operateAll_of_ended (h : span.ended = true) (operations : List SpanOperation)
    (t : Telemetry) : (logged span).operateAll operations t = (.logged span, t) :=
  List.foldl_fixed' (fun operation => operate_of_ended h operation t) operations

/-- A span notes what is done with it before its first end. If there is one, it is logged then. -/
theorem operateAll_of_open (h : span.ended = false) (operations : List SpanOperation)
    (t : Telemetry) :
    let noted := span.noteEach (SpanOperation.untilEnd operations)
    (logged span).operateAll operations t =
      if .finish ∈ operations then
        (.logged { noted with ended := true }, t.emit (.log noted.endRecord))
      else (.logged noted, t) := by
  induction operations generalizing span with
  | nil => rfl
  | cons operation operations ih =>
    have hstep : (logged span).operateAll (operation :: operations) t =
        ((logged span).operate operation t).1.operateAll operations
          ((logged span).operate operation t).2 := rfl
    rw [hstep]
    by_cases hfinish : operation = .finish
    · subst hfinish
      rw [finish_of_open h, operateAll_of_ended rfl]
      simp [SpanOperation.untilEnd, LoggedSpan.noteEach]
    · have hnext : (span.note operation).ended = false := h
      have huntil : SpanOperation.untilEnd (operation :: operations) =
          operation :: SpanOperation.untilEnd operations := by
        simp [SpanOperation.untilEnd, hfinish]
      have hmem : .finish ∈ operation :: operations ↔ .finish ∈ operations := by
        simp [Ne.symm hfinish]
      rw [operate_of_open h hfinish, ih hnext, huntil]
      simp only [hmem]
      rfl

/-- After any operations, and so at every step of any run: a span that is written to the log keeps
updates just if it has not been ended, and until then nothing is logged after its start. Its first
end is logged, once, with the last outcome and the last value of each attribute that were set until
then. Nothing that is done after it has an effect on the span or on the log. -/
theorem operateAll_logs_first_end (name : String) (attributes : Attributes) (environ : Environ)
    (t : Telemetry) (operations : List SpanOperation) :
    let start := Tracer.log.start name attributes environ t
    let now := start.1.operateAll operations start.2
    let noted := SpanOperation.untilEnd operations
    start.2 = t.emit (.log (LoggedSpan.startRecord name)) ∧
      (LoggedSpan.startRecord name).isSpanEnd = false ∧
      ∃ span, now.1 = .logged span ∧
        span.attributes.KeepsLastOf
          (attributes.entries ++ noted.flatMap SpanOperation.attributes) ∧
        (now.1.isRecording now.2 = true ↔ .finish ∉ operations) ∧
        if .finish ∈ operations then
          (∃ record : LogRecord, now.2 = start.2.emit (.log record) ∧
            record.TellsEnd name
              (SpanStatus.lastFailure? (noted.filterMap SpanOperation.status?)) span.attributes) ∧
          ∀ later, now.1.operateAll later now.2 = now
        else now.2 = start.2 := by
  intro start now noted
  let last := ({ name, attributes } : LoggedSpan).noteEach noted
  have hlast : last =
      { name
        attributes := attributes.insertAll (noted.flatMap (·.attributes))
        status := (noted.filterMap (·.status?)).getLast?.getD .unset } :=
    LoggedSpan.noteEach_eq _ noted
  have hkeeps : last.attributes.KeepsLastOf
      (attributes.entries ++ noted.flatMap (·.attributes)) := by
    rw [hlast]
    exact attributes.keepsLastOf_insertAll _
  have hrecord : last.endRecord.TellsEnd name
      (SpanStatus.lastFailure? (noted.filterMap (·.status?))) last.attributes := by
    have htells := last.endRecord_tellsEnd (congrArg (·.status) hlast)
    rwa [congrArg (·.name) hlast] at htells
  have hrun : now = if .finish ∈ operations then
      (.logged { last with ended := true }, start.2.emit (.log last.endRecord))
      else (.logged last, start.2) :=
    operateAll_of_open rfl operations start.2
  by_cases hfinish : .finish ∈ operations
  · have hnow := hrun.trans (if_pos hfinish)
    refine ⟨rfl, rfl, { last with ended := true }, by rw [hnow], hkeeps, ?_, ?_⟩
    · rw [hnow]
      simp [isRecording, LoggedSpan.isRecording, hfinish]
    · rw [if_pos hfinish, hnow]
      exact ⟨⟨last.endRecord, rfl, hrecord⟩, fun later => operateAll_of_ended rfl later _⟩
  · have hnow := hrun.trans (if_neg hfinish)
    refine ⟨rfl, rfl, last, by rw [hnow], hkeeps, ?_, ?_⟩
    · rw [hnow, hlast]
      simp [isRecording, LoggedSpan.isRecording, hfinish]
    · rw [if_neg hfinish, hnow]

example :
    let start := Tracer.log.start "GET /" (.ofList [("b", .int 1)]) .empty {}
    let operations := [.setStatus (.error "gone"), .setAttribute "b" (.int 2),
      .setAttribute "a" (.bool true), .finish, .setStatus .unset, .finish]
    (start.1.operateAll operations start.2).2.events.filter Event.isSpanEnd =
      [.log
        { level := .warn
          target := "environ_trace::span"
          message := "span ended with error"
          fields := [{ name := "span", value := "GET /" }, { name := "error", value := "gone" },
            { name := "attributes", value := "a=true b=2" }] }] := by
  decide +kernel

end Span

end RequestTracing
