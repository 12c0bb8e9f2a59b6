import RequestTracing.Header.Carrier
import RequestTracing.Text.Blank
import RequestTracing.Trace.Context
import RequestTracing.Trace.State
/-!
Trace context in headers: one header names the trace, the span of the caller and its flags, and
another carries the list of vendor data.
-/
namespace RequestTracing

/-- A way to hand trace context from process to process. -/
inductive Propagator where
  | none
  | traceContext
  deriving DecidableEq, Repr

namespace TraceContext

def parentHeader : String := "traceparent"
def stateHeader : String := "tracestate"

def maxVersion : Nat := 254

def maxFlags : Nat := 2

/-- Reads one or more digits below a limit, after an optional plus sign. -/
def readField? (limit : Nat) (cs : List Char) : Option Nat :=
  let digits := match cs with
    | '+' :: digits => digits
    | _ => cs
  if digits.isEmpty then .none else (Text.readHexDigits? digits).filter (· < limit)

def readIdentifier? (limit : Nat) (cs : List Char) : Option Nat :=
  if cs.any Char.isUpper then .none else readField? limit cs

/-- Reads the header that names the caller's span: version, trace, span and flags between hyphens.
Later versions may have more fields. Of the flags only the lowest bit is kept. -/
def readParent? (header : String) : Option SpanContext :=
  match Text.terminated '-' (Text.trimChars header.toList) with
  | version :: trace :: span :: flags :: more => do
    let version ← readField? 256 version
    if maxVersion < version || (version = 0 && !more.isEmpty) then .none
    let trace ← readIdentifier? (Nat.pow 2 128) trace
    let span ← readIdentifier? (Nat.pow 2 64) span
    let flags ← readField? 256 flags
    if version = 0 && maxFlags < flags then .none
    let context : SpanContext :=
      { traceId := BitVec.ofNat 128 trace
        spanId := BitVec.ofNat 64 span
        flags := UInt8.ofNat flags &&& 1
        remote := true }
    if context.isValid then some context else .none
  | _ => .none

def parentText (context : SpanContext) : String :=
  "00-" ++ context.traceText ++ "-" ++ context.spanText ++ "-" ++
    String.ofList (Text.hexDigits 2 (context.flags &&& 1).toNat)

end TraceContext

namespace Propagator

/-- The caller's span, if the headers of a request name one. -/
def extract? (propagator : Propagator) (environ : Environ) : Option SpanContext :=
  match propagator with
  | .none => .none
  | .traceContext =>
    (TraceContext.readParent? ((Carrier.get? environ TraceContext.parentHeader).getD "")).map
      fun context =>
        { context with
          state := TraceState.read ((Carrier.get? environ TraceContext.stateHeader).getD "") }

/-- The headers that hand on a span; an invalid one is not handed on. -/
def inject (propagator : Propagator) (context : SpanContext) : List (String × String) :=
  match propagator with
  | .none => []
  | .traceContext =>
    if context.isValid then
      [(TraceContext.parentHeader, TraceContext.parentText context),
        (TraceContext.stateHeader, TraceState.header context.state)]
    else []

def injectInto (propagator : Propagator) (context : SpanContext)
    (headers : List (String × String)) : List (String × String) :=
  (propagator.inject context).foldl
    (fun headers (name, value) => Carrier.set headers name value) headers

end Propagator

end RequestTracing
