import RequestTracing.Text.Hexadecimal
/-!
The identity of a span in a distributed trace, as it is handed from one process to the next.
-/
namespace RequestTracing

/-- The identity of a span. Identifiers of zero are invalid. -/
structure SpanContext where
  traceId : BitVec 128
  spanId : BitVec 64
  flags : UInt8 := 0
  remote : Bool := false
  state : List (String × String) := []
  deriving DecidableEq, Repr

namespace SpanContext

def invalid : SpanContext := { traceId := 0, spanId := 0 }

instance : Inhabited SpanContext := ⟨invalid⟩

def isValid (context : SpanContext) : Bool :=
  context.traceId ≠ 0 && context.spanId ≠ 0

def isSampled (context : SpanContext) : Bool :=
  context.flags &&& 1 = 1

def traceText (context : SpanContext) : String :=
  String.ofList (Text.hexDigits 32 context.traceId.toNat)

def spanText (context : SpanContext) : String :=
  String.ofList (Text.hexDigits 16 context.spanId.toNat)

end SpanContext

end RequestTracing
