import RequestTracing.Attribute
import RequestTracing.Config
import RequestTracing.Environ
import RequestTracing.Header.Pattern
import RequestTracing.Header.Set
/-!
Headers captured as span attributes. A header is captured if its name is allowed; its value is the
joined values, or a mark in their place if the name is to be hidden.
-/
namespace RequestTracing

def redacted : String := "[REDACTED]"

def requestHeaderStart : String := "http.request.header."
def responseHeaderStart : String := "http.response.header."

def headerAttribute (start name : String) : String :=
  start ++ Text.exchange '-' '_' (Text.lower name)

def requestHeaderAttribute (name : String) : String :=
  headerAttribute requestHeaderStart name

def responseHeaderAttribute (name : String) : String :=
  headerAttribute responseHeaderStart name

def shownValue (hidden : HeaderMatcher) (name value : String) : String :=
  if hidden.isMatch name then redacted else value

/-- The attributes of the allowed headers. If two names share an attribute, the greater name
decides. -/
def captureHeaders (allowed hidden : HeaderMatcher) (key : String → String)
    (headers : HeaderSet) : Attributes :=
  let kept := headers.entries.filter fun (name, _) => allowed.isMatch name
  .ofList (kept.map fun (name, values) =>
    (key name, .texts [shownValue hidden name (",".intercalate values)]))

/-- The settings for capture, ready for use. -/
structure HeaderCapture where
  request : HeaderMatcher := {}
  response : HeaderMatcher := {}
  hidden : HeaderMatcher := {}
  allMethods : Bool := false

namespace HeaderCapture

def ofConfig (config : Config)
    (compile : Regex.Compiler := Regex.Library.standard.compile) : HeaderCapture :=
  { request := .ofPatterns config.serverRequest compile
    response := .ofPatterns config.serverResponse compile
    hidden := .ofPatterns config.sanitizeFields compile
    allMethods := config.captureAllMethods }

def requestHeaders (environ : Environ) : HeaderSet :=
  .ofPairs (environ.headerVariables.map fun (name, value) => (Text.exchange '_' '-' name, value))

def requestAttributes (capture : HeaderCapture) (environ : Environ) : Attributes :=
  captureHeaders capture.request capture.hidden requestHeaderAttribute (requestHeaders environ)

def responseAttributes (capture : HeaderCapture) (headers : List (String × String)) : Attributes :=
  captureHeaders capture.response capture.hidden responseHeaderAttribute (.ofPairs headers)

end HeaderCapture

end RequestTracing
