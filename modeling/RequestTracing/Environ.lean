import RequestTracing.Dictionary
import RequestTracing.Text.AsciiCase
import RequestTracing.Text.Pieces
/-!
The facts of one request, held as variables. The request headers stand under names of their own,
in upper case with underscores after a common start.
-/
namespace RequestTracing

/-- The variables of a request. -/
abbrev Environ := Dictionary String

namespace Variable

def requestMethod : String := "REQUEST_METHOD"
def scriptName : String := "SCRIPT_NAME"
def pathInfo : String := "PATH_INFO"
def queryString : String := "QUERY_STRING"
def serverName : String := "SERVER_NAME"
def serverPort : String := "SERVER_PORT"
def serverProtocol : String := "SERVER_PROTOCOL"
def urlScheme : String := "URL_SCHEME"
def rawUri : String := "RAW_URI"
def requestUri : String := "REQUEST_URI"
def remoteAddr : String := "REMOTE_ADDR"
def remoteHost : String := "REMOTE_HOST"
def remotePort : String := "REMOTE_PORT"
def contentType : String := "CONTENT_TYPE"
def contentLength : String := "CONTENT_LENGTH"
def httpHost : String := "HTTP_HOST"
def httpUserAgent : String := "HTTP_USER_AGENT"

def headerStart : String := "HTTP_"

/-- The variable that holds the header of a name. -/
def ofHeader (name : String) : String :=
  headerStart ++ Text.exchange '-' '_' (Text.upper name)

/-- What follows the common start in the name of a variable that holds a header. -/
def header? (key : String) : Option String :=
  (Text.after? headerStart.toList key.toList).map String.ofList

end Variable

namespace Environ

def getNonEmpty? (environ : Environ) (key : String) : Option String :=
  (environ.get? key).filter (· ≠ "")

/-- The value of a variable, empty if it is absent. -/
def getText (environ : Environ) (key : String) : String :=
  (environ.get? key).getD ""

/-- The variables that hold headers, without the common start of their names. -/
def headerVariables (environ : Environ) : List (String × String) :=
  environ.entries.filterMap fun (key, value) =>
    (Variable.header? key).map fun name => (name, value)

end Environ

end RequestTracing
