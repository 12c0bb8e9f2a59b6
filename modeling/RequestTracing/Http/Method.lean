import RequestTracing.Text.AsciiCase
/-!
Request methods. Methods outside the known ones are folded into one value, so that the number of
distinct values stays small, unless all methods are to be kept.
-/
namespace RequestTracing.Http

def nonstandardMethod : String := "NONSTANDARD"

def knownMethods : List String :=
  ["CONNECT", "DELETE", "GET", "HEAD", "OPTIONS", "PATCH", "POST", "PUT", "TRACE"]

/-- The method in upper case, folded unless it is known or all are kept. -/
def sanitizeMethod (method : String) (keepAll : Bool) : String :=
  let method := Text.upper method
  if keepAll || knownMethods.contains method then method else nonstandardMethod

end RequestTracing.Http
