import RequestTracing.Application.Basic
import RequestTracing.Attribute
import RequestTracing.Span.Status
import RequestTracing.Text.Quoted
import RequestTracing.Trace.Context
/-!
Events: everything about requests that can be noticed from outside, in the order in which it
happens.
-/
namespace RequestTracing

inductive LogLevel where
  | error
  | warn
  | info
  | debug
  | trace
  deriving DecidableEq, Repr

structure LogField where
  name : String
  value : String
  inQuotes : Bool := false
  deriving DecidableEq, Repr

structure LogRecord where
  level : LogLevel
  target : String
  message : String
  fields : List LogField := []
  deriving DecidableEq, Repr

structure Instrument where
  name : String
  /-- Whether the instrument shows a present value, and not the distribution of many. -/
  isGauge : Bool
  unit : String
  description : String
  deriving DecidableEq, Repr

inductive Event where
  | log (record : LogRecord)
  | startSpan (span : Nat) (name : String) (attributes : Attributes)
      (carrier : List (String × Option String))
  | setAttribute (span : Nat) (name : String) (value : AttributeValue)
  | setStatus (span : Nat) (status : SpanStatus)
  | endSpan (span : Nat)
  | enterSpan (span : Nat)
  | active (delta : Int) (labels : Attributes)
  | duration (labels : Attributes)
  | describe (instrument : Instrument)
  | gauge (name : String) (labels : List (String × String)) (delta : Int)
  /-- A value was added to a histogram; none is shown for the time that a request really took. -/
  | histogram (name : String) (labels : List (String × String)) (value : Option Nat)
  | application (request : String) (current : Option SpanContext)
  | bodyNext (request : String) (current : Option SpanContext)
  | bodyClose (request : String) (current : Option SpanContext)
  | bodyDrop (request : String)
  | server (request : String) (start : ResponseStart)
  | requestHook
  | responseHook
  deriving DecidableEq

end RequestTracing
