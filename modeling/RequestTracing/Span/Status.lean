/-!
The kind of a span and the outcome recorded on it.
-/
namespace RequestTracing

inductive SpanKind where
  | server
  | client
  | producer
  | consumer
  | internal
  deriving DecidableEq, Repr

inductive SpanStatus where
  | unset
  | ok
  | error (description : String)
  deriving DecidableEq, Repr

namespace SpanStatus

instance : Inhabited SpanStatus := ⟨.unset⟩

def isError : SpanStatus → Bool
  | .error _ => true
  | _ => false

end SpanStatus

end RequestTracing
