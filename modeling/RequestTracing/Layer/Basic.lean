import RequestTracing.Header.Warning
import RequestTracing.Meter
import RequestTracing.Tracer
/-!
Layers around applications. A layer has all that it takes to trace and to measure requests; it is
put together from options, and whatever these leave out takes a default.
-/
namespace RequestTracing

/-- Is given the span when its request has been taken up. -/
abbrev RequestHook := Environ → SpanRoutine

/-- Is given the span when the response to its request starts. -/
abbrev ResponseHook := Environ → ResponseStart → SpanRoutine

structure Layer where
  tracer : Tracer
  meter : Meter
  capture : HeaderCapture
  requestHook : Option RequestHook := none
  responseHook : Option ResponseHook := none

/-- What a layer is put together from. -/
structure LayerOptions where
  tracer : Option Tracer := none
  meter : Option Meter := none
  config : Option Config := none
  requestHook : Option RequestHook := none
  responseHook : Option ResponseHook := none

namespace LayerOptions

def effectiveConfig (options : LayerOptions) (settings : Dictionary String) : Config :=
  options.config.getD (.ofLookup settings.get?)

def effectiveMeter (options : LayerOptions) : Meter :=
  options.meter.getD .instruments

def build (options : LayerOptions) (settings : Dictionary String) : Layer :=
  { tracer := options.tracer.getD .passive
    meter := options.effectiveMeter
    capture := .ofConfig (options.effectiveConfig settings)
    requestHook := options.requestHook
    responseHook := options.responseHook }

def buildEvents (options : LayerOptions) (settings : Dictionary String) : List Event :=
  options.effectiveMeter.descriptions ++
    HeaderCapture.warnings (options.effectiveConfig settings)

end LayerOptions

end RequestTracing
