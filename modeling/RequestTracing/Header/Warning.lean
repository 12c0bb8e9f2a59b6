import RequestTracing.Event
import RequestTracing.Header.Capture
/-!
Warnings about malformed patterns for header names, which are passed over.
-/
namespace RequestTracing

def malformedPatternRecord (pattern error : String) : LogRecord :=
  { level := .warn
    target := "environ_trace::headers"
    message := "Ignoring malformed header name pattern"
    fields := [{ name := "pattern", value := pattern }, { name := "error", value := error }] }

def HeaderMatcher.warnings (written : List String)
    (compile : Regex.Compiler := Regex.Library.standard.compile) : List Event :=
  (HeaderMatcher.malformed written compile).map fun (pattern, error) =>
    .log (malformedPatternRecord pattern error)

def HeaderCapture.warnings (config : Config)
    (compile : Regex.Compiler := Regex.Library.standard.compile) : List Event :=
  HeaderMatcher.warnings config.serverRequest compile ++
    HeaderMatcher.warnings config.serverResponse compile ++
    HeaderMatcher.warnings config.sanitizeFields compile

end RequestTracing
