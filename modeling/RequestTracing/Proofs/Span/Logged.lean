import RequestTracing.Layer.Request
import RequestTracing.Proofs.Span.Outcome
/-!
Spans that are kept in memory until they are written to the log. As long as such a span has not
ended, an attribute replaces an earlier one of its name, and an outcome replaces an earlier one.
-/
namespace RequestTracing

namespace Http

/-- The description of the failure that a status line stands for, if it stands for one. A code from
100 to 499 is no failure. -/
def lineFault? (line : String) : Option String :=
  match statusCode? line with
  | some code => if 100 ≤ code ∧ code ≤ 499 then none else some ""
  | none => some ("Non-integer HTTP status: " ++ Text.quoted (String.ofList (statusToken line)))

theorem lineOutcome_eq (line : String) :
    lineOutcome line = (lineFault? line).elim .unset .error := by
  unfold lineOutcome lineFault?
  cases statusCode? line with
  | none => rfl
  | some code =>
    by_cases hcode : 100 ≤ code ∧ code ≤ 499
    · have hlow : ¬ code ≤ 99 := by omega
      simp [statusOutcome, hcode, hlow]
    · have hfailed : statusOutcome code true = .error "" := by
        by_cases hlow : code ≤ 99
        · simp [statusOutcome, hlow]
        · have hmiddle : ¬ code ≤ 399 := by omega
          have hhigh : ¬ code ≤ 499 := by omega
          simp [statusOutcome, hlow, hmiddle, hhigh]
      simp [hfailed, hcode]

end Http

namespace LoggedSpan

def noteAll (span : LoggedSpan) (attributes : Attributes) : LoggedSpan :=
  { span with attributes := span.attributes.insertAll attributes.entries }

def noteStatus (span : LoggedSpan) (line : String) : LoggedSpan :=
  { span with
    attributes := span.attributes.insertSome Http.statusCodeAttribute
      ((Http.statusCode? line).map .int)
    status := Http.lineOutcome line }

end LoggedSpan

namespace Span

variable {span : LoggedSpan} (h : span.ended = false)

include h

theorem setAttributes_logged (attributes : Attributes) (t : Telemetry) :
    (logged span).setAttributes attributes t = (.logged (span.noteAll attributes), t) := by
  unfold setAttributes LoggedSpan.noteAll
  generalize attributes.entries = entries
  induction entries generalizing span with
  | nil => rfl
  | cons entry entries ih =>
    have hset : (logged span).setAttribute entry.1 entry.2 t =
        (.logged { span with attributes := span.attributes.insert entry.1 entry.2 }, t) := by
      simp [setAttribute, LoggedSpan.setAttribute, h]
    show List.foldl _ ((logged span).setAttribute entry.1 entry.2 t) entries = _
    rw [hset]
    have hrest := @ih { span with attributes := span.attributes.insert entry.1 entry.2 } h
    exact hrest

theorem setHeaders_logged (headers : Attributes) (t : Telemetry) :
    Layer.setHeaders headers (logged span) t = (.logged (span.noteAll headers), t) := by
  have hserver : (logged span).isRecordingServer t = true := by
    simp [isRecordingServer, isRecording, LoggedSpan.isRecording, kind, h]
  unfold Layer.setHeaders
  rw [if_pos hserver, setAttributes_logged h]

theorem applyStatus_logged (line : String) (t : Telemetry) :
    (logged span).applyStatus line t = (.logged (span.noteStatus line), t) := by
  have hrecording : (logged span).isRecording t = true := by
    simp [isRecording, LoggedSpan.isRecording, h]
  unfold applyStatus LoggedSpan.noteStatus
  rw [if_pos hrecording]
  cases hcode : Http.statusCode? line <;>
    simp [setAttribute, setStatus, LoggedSpan.setAttribute, LoggedSpan.setStatus, h,
      Http.lineOutcome, hcode, Dictionary.insertSome]

end Span

end RequestTracing
