import RequestTracing.Environ
import RequestTracing.Text.Percent
/-!
The URL of a request, rebuilt from its variables: scheme, host, path and query.
-/
namespace RequestTracing.Http

def isPathByte (b : UInt8) : Bool :=
  let c := Char.ofNat b.toNat
  b.toNat < 0x80 && (c.isAlphanum || ['/', ';', '=', ',', '_', '.', '-', '~'].contains c)

/-- The bytes that a path stands for. Its characters up to U+00FF are raw bytes of the request; any
wider character stands for its bytes in UTF-8. -/
def pathBytes (path : List Char) : List UInt8 :=
  path.flatMap fun c => if c.toNat < 0x100 then [UInt8.ofNat c.toNat] else Text.utf8Bytes c

def quotePath (path : List Char) : List Char :=
  Text.percentEncode isPathByte (pathBytes path)

/-- The scheme of a request, plain unless the variables say otherwise. -/
def requestScheme (environ : Environ) : String :=
  (environ.get? Variable.urlScheme).getD "http"

def defaultPort (scheme : String) : String :=
  if scheme = "https" then "443" else "80"

/-- The host as the client named it, or else the server's name with its port, which is left out if
the scheme implies it. -/
def requestHost (environ : Environ) : String :=
  match environ.getNonEmpty? Variable.httpHost with
  | some host => host
  | none =>
    let name := environ.getText Variable.serverName
    match environ.getNonEmpty? Variable.serverPort with
    | some port => if port = defaultPort (requestScheme environ) then name else name ++ ":" ++ port
    | none => name

/-- The characters of the path before they are quoted: the script's name and the path below it, or
without a script the path with exactly one slash added or kept in front. -/
def requestPath (environ : Environ) : List Char :=
  let path := (environ.getText Variable.pathInfo).toList
  match environ.getNonEmpty? Variable.scriptName with
  | some script => script.toList ++ path
  | none => '/' :: (match path with
    | '/' :: rest => rest
    | _ => path)

def requestQuery (environ : Environ) : String :=
  match environ.getNonEmpty? Variable.queryString with
  | some query => "?" ++ query
  | none => ""

def requestUrl (environ : Environ) : String :=
  requestScheme environ ++ "://" ++ requestHost environ ++
    String.ofList (quotePath (requestPath environ)) ++ requestQuery environ

end RequestTracing.Http
