import RequestTracing.Proofs.Span.Outcome
/-!
What is kept of a span of a distributed trace until it ends. Attributes are added after one another,
and of the outcomes that it is offered the span keeps the greatest.
-/
namespace RequestTracing

/-- What is kept of a span after it was given more attributes and offered an outcome. -/
def SpanRecord.note (record : SpanRecord) (attributes : List (String × AttributeValue))
    (status : SpanStatus) : SpanRecord :=
  { record with
    attributes := record.attributes ++ attributes
    status := record.status.raised status }

/-- The attribute with the code of a status line, if it has one. -/
def Http.codeAttribute (line : String) : List (String × AttributeValue) :=
  ((statusCode? line).map fun code => (statusCodeAttribute, .int code)).toList

namespace DistributedSpan

def keeping (span : DistributedSpan) (record : SpanRecord) : DistributedSpan :=
  { span with record := some record }

def exported (span : DistributedSpan) (record : SpanRecord) : ExportedSpan :=
  { name := record.name
    kind := span.kind
    context := span.context
    parent := record.parent
    status := record.status
    attributes := record.attributes.take maxAttributes }

variable (span : DistributedSpan) (record : SpanRecord)

theorem setStatus_keeping (status : SpanStatus) :
    (span.keeping record).setStatus status = span.keeping (record.note [] status) := by
  simp only [keeping, setStatus, SpanRecord.note, SpanStatus.raised, Option.map_some,
    List.append_nil]
  split <;> rfl

/-- A span keeps its attributes from the start if its parent is sampled. -/
theorem start_keeping (name : String) (kind : SpanKind) (attributes : Attributes)
    {parent : Option SpanContext} (h : parent.all (·.isSampled) = true) (t : Telemetry) :
    ∃ (span : DistributedSpan) (first : SpanRecord),
      (start name kind attributes parent t).1 = span.keeping first ∧
      (start name kind attributes parent t).2.exported = t.exported ∧
      first.status = .unset ∧ first.attributes = attributes.entries := by
  let first : SpanRecord :=
    { name, parent := (parent.map (·.spanId)).getD 0, attributes := attributes.entries }
  refine ⟨(start name kind attributes parent t).1, first, ?_, ?_, rfl, rfl⟩
  · simp [start, h, first, keeping]
  · cases parent <;> rfl

end DistributedSpan

namespace SpanRecord

variable (record : SpanRecord) (attributes others : List (String × AttributeValue))
  (status other : SpanStatus)

theorem note_nil : record.note [] .unset = record := by
  simp [note]

theorem note_note_unset :
    (record.note attributes status).note others .unset =
      record.note (attributes ++ others) status := by
  simp [note]

theorem note_unset_note :
    (record.note attributes .unset).note others status =
      record.note (attributes ++ others) status := by
  simp [note]

end SpanRecord

namespace Span

variable (span : DistributedSpan) (record : SpanRecord) (t : Telemetry)

theorem setAttributes_keeping (attributes : Attributes) :
    (distributed (span.keeping record)).setAttributes attributes t =
      (.distributed (span.keeping (record.note attributes.entries .unset)), t) := by
  unfold setAttributes
  generalize attributes.entries = entries
  induction entries generalizing record with
  | nil => rw [SpanRecord.note_nil, List.foldl_nil]
  | cons entry entries ih =>
    rw [← List.singleton_append, ← SpanRecord.note_unset_note]
    exact ih (record.note [entry] .unset)

theorem applyStatus_keeping (line : String) :
    (distributed (span.keeping record)).applyStatus line t =
      (.distributed (span.keeping (record.note (Http.codeAttribute line) (Http.lineOutcome line))),
        t) := by
  have hrecording : (distributed (span.keeping record)).isRecording t = true := rfl
  unfold applyStatus
  rw [if_pos hrecording]
  cases hcode : Http.statusCode? line with
  | none => simp [setStatus, DistributedSpan.setStatus_keeping, Http.codeAttribute,
      Http.lineOutcome, hcode]
  | some code =>
    have hset : (distributed (span.keeping record)).setAttribute Http.statusCodeAttribute
        (.int code) t =
        (.distributed (span.keeping (record.note (Http.codeAttribute line) .unset)), t) := by
      simp [Http.codeAttribute, hcode]
      rfl
    simp [hset, setStatus, DistributedSpan.setStatus_keeping, SpanRecord.note_unset_note,
      Http.lineOutcome, hcode]

end Span

end RequestTracing
