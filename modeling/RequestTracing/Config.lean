import RequestTracing.Text.AsciiCase
import RequestTracing.Text.Blank
import RequestTracing.Text.Pieces
/-!
Settings: which headers are captured, which values are hidden, and whether unusual methods are
kept. The default captures and hides nothing and folds unusual methods.
-/
namespace RequestTracing

structure Config where
  serverRequest : List String := []
  serverResponse : List String := []
  sanitizeFields : List String := []
  captureAllMethods : Bool := false
  deriving DecidableEq, Repr

namespace Config

instance : Inhabited Config := ⟨{}⟩

def serverRequestKey : String := "OTEL_INSTRUMENTATION_HTTP_CAPTURE_HEADERS_SERVER_REQUEST"
def serverResponseKey : String := "OTEL_INSTRUMENTATION_HTTP_CAPTURE_HEADERS_SERVER_RESPONSE"
def sanitizeFieldsKey : String := "OTEL_INSTRUMENTATION_HTTP_CAPTURE_HEADERS_SANITIZE_FIELDS"
def captureAllMethodsKey : String := "OTEL_INSTRUMENTATION_HTTP_CAPTURE_ALL_METHODS"

/-- The entries of a list separated by commas, without white space around them and without blank
entries. -/
def splitList (value : String) : List String :=
  ((Text.splitAt ',' value).map Text.trim).filter (· ≠ "")

/-- Whether a text turns a setting on. -/
def isTruthy (value : String) : Bool :=
  ["1", "true", "yes", "on"].contains (Text.lower (Text.trim value))

/-- Reads the settings from values under keys; a missing key leaves its default. -/
def ofLookup (lookup : String → Option String) : Config :=
  let list (key : String) : List String := ((lookup key).map splitList).getD []
  { serverRequest := list serverRequestKey
    serverResponse := list serverResponseKey
    sanitizeFields := list sanitizeFieldsKey
    captureAllMethods := ((lookup captureAllMethodsKey).map isTruthy).getD false }

end Config

end RequestTracing
