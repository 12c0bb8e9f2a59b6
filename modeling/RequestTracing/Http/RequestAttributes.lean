import RequestTracing.Attribute
import RequestTracing.Http.Method
import RequestTracing.Http.RequestUrl
import RequestTracing.Http.StatusLine
import RequestTracing.Text.Blank
import RequestTracing.Url.Credentials
/-!
The attributes that describe a request, the labels that its metrics take from them, and the name of
its span.
-/
namespace RequestTracing

namespace AttributeName

def httpMethod : String := "http.method"
def httpServerName : String := "http.server_name"
def httpScheme : String := "http.scheme"
def httpHost : String := "http.host"
def httpTarget : String := "http.target"
def httpUrl : String := "http.url"
def httpUserAgent : String := "http.user_agent"
def httpFlavor : String := "http.flavor"
def httpStatusCode : String := Http.statusCodeAttribute
def netHostName : String := "net.host.name"
def netHostPort : String := "net.host.port"
def netPeerIp : String := "net.peer.ip"
def netPeerName : String := "net.peer.name"
def netPeerPort : String := "net.peer.port"

end AttributeName

namespace Http

open AttributeName

/-- The attributes that label the number of active requests. -/
def activeLabelNames : List String :=
  [httpMethod, httpHost, httpScheme, httpFlavor, httpServerName]

/-- The attributes that label the duration of requests. -/
def durationLabelNames : List String :=
  [httpMethod, httpHost, httpScheme, httpStatusCode, httpFlavor, httpServerName, netHostName,
    netHostPort]

/-- The value of a port variable, if it is a number. -/
def portNumber? (environ : Environ) (key : String) : Option Int :=
  (environ.getNonEmpty? key).bind fun port => Text.readInt64? (Text.trimChars port.toList)

/-- The version of a protocol, without the protocol's name in front. -/
def flavor (protocol : String) : String :=
  let cs := protocol.toList
  if (cs.take 5).map Char.toLower = ['h', 't', 't', 'p', '/'] then String.ofList (cs.drop 5)
  else protocol

/-- The name of the peer, unless it only repeats its address. -/
def peerName? (environ : Environ) : Option String :=
  (environ.getNonEmpty? Variable.remoteHost).filter fun host =>
    some host != environ.getNonEmpty? Variable.remoteAddr

/-- The target of a request as the client sent it, if the variables have it. -/
def requestTarget? (environ : Environ) : Option String :=
  environ.get? Variable.rawUri <|> environ.get? Variable.requestUri

/-- The attributes of a request. A fact that is missing or malformed gives no attribute; a request
without a target has its URL instead, without credentials. -/
def requestAttributes (environ : Environ) (keepAllMethods : Bool) : Attributes :=
  let text (value : Option String) : Option AttributeValue := value.map .text
  let location (attributes : Attributes) : Attributes := match requestTarget? environ with
    | some target => attributes.insert httpTarget (.text target)
    | none => attributes.insert httpUrl (.text (Url.removeCredentials (requestUrl environ)))
  let attributes : Attributes := .empty
  let attributes := attributes.insertSome httpMethod
    (text ((environ.get? Variable.requestMethod).map (sanitizeMethod · keepAllMethods)))
  let attributes := attributes.insertSome httpServerName (text (environ.get? Variable.serverName))
  let attributes := attributes.insertSome httpScheme (text (environ.get? Variable.urlScheme))
  let attributes := attributes.insertSome netHostPort
    ((portNumber? environ Variable.serverPort).map .int)
  let attributes := attributes.insertSome httpHost (text (environ.get? Variable.httpHost))
  let attributes := location attributes
  let attributes := attributes.insertSome netPeerIp
    (text (environ.getNonEmpty? Variable.remoteAddr))
  let attributes := attributes.insertSome netPeerName (text (peerName? environ))
  let attributes := attributes.insertSome httpUserAgent
    (text (environ.getNonEmpty? Variable.httpUserAgent))
  let attributes := attributes.insertSome netPeerPort
    ((portNumber? environ Variable.remotePort).map .int)
  attributes.insertSome httpFlavor
    (text (some (flavor (environ.getText Variable.serverProtocol)) |>.filter (· ≠ "")))

def activeLabels (attributes : Attributes) : Attributes :=
  attributes.project activeLabelNames

def durationLabels (attributes : Attributes) : Attributes :=
  attributes.project durationLabelNames

/-- The name of a request's span: its method, and its path if there is one. -/
def spanName (environ : Environ) (keepAllMethods : Bool) : String :=
  let method := sanitizeMethod (Text.trim (environ.getText Variable.requestMethod)) keepAllMethods
  let path := Text.trim (environ.getText Variable.pathInfo)
  if path = "" then method else method ++ " " ++ path

end Http

end RequestTracing
