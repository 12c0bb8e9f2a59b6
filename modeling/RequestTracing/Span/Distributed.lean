import RequestTracing.Telemetry
/-!
Spans of distributed traces. Such a span has an identity that later spans refer to. If it is
sampled, a record of it is kept until it ends and then exported.
-/
namespace RequestTracing

/-- What is kept of a span until it ends. -/
structure SpanRecord where
  name : String
  parent : BitVec 64
  status : SpanStatus := .unset
  attributes : List (String × AttributeValue)

structure DistributedSpan where
  context : SpanContext
  kind : SpanKind
  record : Option SpanRecord := none

/-- Whether a new outcome replaces an old one: success does not change any more, and one failure
replaces another only if its description is greater. -/
def SpanStatus.outranks : SpanStatus → SpanStatus → Bool
  | .unset, _ => false
  | .error _, .unset => true
  | .error new, .error old => old < new
  | .error _, .ok => false
  | .ok, .ok => false
  | .ok, _ => true

namespace DistributedSpan

def maxAttributes : Nat := 128

/-- Starts a span that belongs to a parent, or else to a trace of its own. It is sampled if its
parent is, and always without a parent. -/
def start (name : String) (kind : SpanKind) (attributes : Attributes) (parent : Option SpanContext)
    (t : Telemetry) : DistributedSpan × Telemetry :=
  let t := { t with spanIds := t.spanIds + 1 }
  let (traceId, t) : BitVec 128 × Telemetry := match parent with
    | some parent => (parent.traceId, t)
    | none => (BitVec.ofNat 128 (t.traceIds + 1), { t with traceIds := t.traceIds + 1 })
  let sampled := parent.all (·.isSampled)
  let context : SpanContext :=
    { traceId
      spanId := BitVec.ofNat 64 t.spanIds
      flags := if sampled then 1 else 0
      state := (parent.map (·.state)).getD [] }
  let record : SpanRecord :=
    { name
      parent := (parent.map (·.spanId)).getD 0
      attributes := attributes.entries }
  ({ context, kind, record := if sampled then some record else none }, t)

/-- Starts a span that only stands for its parent and keeps nothing. -/
def startPassive (kind : SpanKind) (parent : Option SpanContext) : DistributedSpan :=
  { context := parent.getD .invalid, kind }

def isRecording (span : DistributedSpan) : Bool :=
  span.record.isSome

def setAttribute (span : DistributedSpan) (name : String) (value : AttributeValue) :
    DistributedSpan :=
  { span with
    record := span.record.map fun record =>
      { record with attributes := record.attributes ++ [(name, value)] } }

/-- Sets the outcome if it outranks the one so far. -/
def setStatus (span : DistributedSpan) (status : SpanStatus) : DistributedSpan :=
  { span with
    record := span.record.map fun record =>
      if status.outranks record.status then { record with status } else record }

/-- Ends the span, and exports it if a record is kept. Attributes that are too many are left out. -/
def finish (span : DistributedSpan) (t : Telemetry) : DistributedSpan × Telemetry :=
  match span.record with
  | none => (span, t)
  | some record =>
    let exported : ExportedSpan :=
      { name := record.name
        kind := span.kind
        context := span.context
        parent := record.parent
        status := record.status
        attributes := record.attributes.take maxAttributes }
    ({ span with record := none }, { t with exported := t.exported ++ [exported] })

end DistributedSpan

end RequestTracing
