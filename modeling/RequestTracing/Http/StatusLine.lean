import RequestTracing.Span.Status
import RequestTracing.Text.Integer
import RequestTracing.Text.Quoted
/-!
Status lines, such as `200 OK`, and the outcome that a status code stands for.
-/
namespace RequestTracing.Http

def statusCodeAttribute : String := "http.status_code"

/-- The part of a status line before its first space. -/
def statusToken (line : String) : List Char :=
  line.toList.takeWhile (· ≠ ' ')

def statusCode? (line : String) : Option Int :=
  Text.readInt64? (statusToken line)

/-- The outcome that a status code stands for. Codes from 400 to 499 are the caller's fault and so
no failure of a server. -/
def statusOutcome (code : Int) (server : Bool) : SpanStatus :=
  if code ≤ 99 then .error ""
  else if code ≤ 399 then .unset
  else if code ≤ 499 && server then .unset
  else .error ""

/-- The failure that a status line without a code stands for. -/
def unreadableStatus (line : String) : SpanStatus :=
  .error ("Non-integer HTTP status: " ++ Text.quoted (String.ofList (statusToken line)))

end RequestTracing.Http
