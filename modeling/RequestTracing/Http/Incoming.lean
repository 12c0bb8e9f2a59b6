import RequestTracing.Environ
import RequestTracing.Http.Uri
import RequestTracing.SocketAddress
import RequestTracing.Text.Percent
/-!
Requests as they come in, and the variables that hold their facts.
-/
namespace RequestTracing.Http

inductive Version where
  | http09
  | http10
  | http11
  | http2
  | http3
  deriving DecidableEq, Repr

def Version.text : Version → String
  | .http09 => "HTTP/0.9"
  | .http10 => "HTTP/1.0"
  | .http11 => "HTTP/1.1"
  | .http2 => "HTTP/2.0"
  | .http3 => "HTTP/3.0"

inductive RequestError where
  | method
  | uri (error : UriError)
  | headerName
  | headerValue
  deriving DecidableEq, Repr

def RequestError.message : RequestError → String
  | .method => "invalid HTTP method"
  | .uri error => error.message
  | .headerName => "invalid HTTP header name"
  | .headerValue => "failed to parse header value"

def isTokenChar (c : Char) : Bool :=
  c.isAlphanum ||
    ['!', '#', '$', '%', '&', '\'', '*', '+', '-', '.', '^', '_', '`', '|', '~'].contains c

def isToken (s : String) : Bool :=
  s ≠ "" && s.toList.all isTokenChar

def maxHeaderName : Nat := 65535

/-- The bytes that may stand in the value of a header. -/
def isValueByte (b : UInt8) : Bool :=
  (0x20 ≤ b.toNat && b.toNat ≠ 0x7F) || b.toNat = 9

def isReadableByte (b : UInt8) : Bool :=
  isValueByte b && b.toNat < 0x80

/-- The value of a header as text, if all its bytes are readable. -/
def readableValue? (value : List UInt8) : Option String :=
  if value.all isReadableByte then
    some (String.ofList (value.map fun b => Char.ofNat b.toNat))
  else none

/-- A request as it comes in. -/
structure Incoming where
  method : String
  uri : Uri
  version : Version := .http11
  /-- The headers in order, with names in lower case. -/
  headers : List (String × List UInt8) := []
  deriving DecidableEq, Repr

namespace Incoming

def readHeader (name : String) (value : List UInt8) :
    Except RequestError (String × List UInt8) := do
  if !isToken name || maxHeaderName < name.length then throw .headerName
  if !value.all isValueByte then throw .headerValue
  return (Text.lower name, value)

/-- Reads the parts of a request in order; the first malformed one decides. -/
def read (method uri : String) (version : Version) (headers : List (String × List UInt8)) :
    Except RequestError Incoming := do
  if !isToken method then throw .method
  let uri ← (Uri.read uri).mapError .uri
  let headers ← headers.mapM fun (name, value) => readHeader name value
  return { method, uri, version, headers }

/-- The names of the headers, in the order in which they first occur. -/
def headerNames (request : Incoming) : List String :=
  (request.headers.map (·.1)).eraseDups

def readableValues (request : Incoming) (name : String) : List String :=
  request.headers.filterMap fun (n, value) => if n = name then readableValue? value else none

/-- The host that the first header of that name gives, if it is a readable authority. -/
def hostAuthority? (request : Incoming) : Option String := do
  let (_, value) ← request.headers.find? fun (name, _) => name == "host"
  let host ← readableValue? value
  (readAuthority host.toList).toOption

def headerVariable (name : String) : String :=
  if name = "content-type" then Variable.contentType
  else if name = "content-length" then Variable.contentLength
  else Variable.ofHeader name

def headerVariables (request : Incoming) : List (String × String) :=
  request.headerNames.filterMap fun name =>
    match request.readableValues name with
    | [] => none
    | values => some (headerVariable name, ",".intercalate values)

def serverVariables (request : Incoming) : List (String × String) :=
  match request.hostAuthority? <|> request.uri.authority with
  | none => []
  | some authority =>
    let port := (authorityPort? authority).getD request.uri.impliedPort
    [(Variable.serverName, authorityHost authority),
      (Variable.serverPort, Text.decimal (port : Nat))]

def environ (request : Incoming) (remote : Option SocketAddress) : Environ :=
  let uri := request.uri
  Dictionary.ofList <|
    [(Variable.requestMethod, request.method), (Variable.scriptName, ""),
      (Variable.pathInfo, uri.shownPath), (Variable.queryString, uri.query.getD ""),
      (Variable.serverProtocol, request.version.text),
      (Variable.urlScheme, uri.scheme.getD "http")] ++
    (uri.target?.toList.map fun target => (Variable.requestUri, target)) ++
    request.serverVariables ++ request.headerVariables ++
    match remote with
    | some remote =>
      [(Variable.remoteAddr, remote.ip.text), (Variable.remotePort, Text.decimal remote.port)]
    | none => []

end Incoming

end RequestTracing.Http
