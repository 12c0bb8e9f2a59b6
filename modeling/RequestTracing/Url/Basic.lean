import RequestTracing.Url.Host
/-!
URLs in parsed form and their serialization.
-/
namespace RequestTracing

/-- A URL in normal form: all parts but the host are in percent encoding. -/
structure Url where
  scheme : String
  username : String := ""
  password : Option String := none
  host : Option Url.Host := none
  /-- The port, if it is not the one that the scheme implies. -/
  port : Option Nat := none
  path : String
  query : Option String := none
  fragment : Option String := none
  deriving DecidableEq, Repr

namespace Url

/-- The schemes whose URLs always have a host, with the ports they imply. -/
def impliedPort? (scheme : String) : Option Nat :=
  match scheme with
  | "http" | "ws" => some 80
  | "https" | "wss" => some 443
  | "ftp" => some 21
  | _ => none

def isSpecial (scheme : String) : Bool :=
  (impliedPort? scheme).isSome || scheme == "file"

def hasCredentials (url : Url) : Bool :=
  url.username != "" || url.password.isSome

def withoutCredentials (url : Url) : Url :=
  { url with username := "", password := none }

def userinfo (url : Url) : String :=
  match url.password with
  | some password => url.username ++ ":" ++ password ++ "@"
  | none => if url.username = "" then "" else url.username ++ "@"

def text (url : Url) : String :=
  let authority := match url.host with
    | some host => "//" ++ url.userinfo ++ host.text ++
        (match url.port with
          | some port => ":" ++ Text.decimal port
          | none => "")
    | none => ""
  let query := match url.query with
    | some query => "?" ++ query
    | none => ""
  let fragment := match url.fragment with
    | some fragment => "#" ++ fragment
    | none => ""
  url.scheme ++ ":" ++ authority ++ url.path ++ query ++ fragment

end Url

end RequestTracing
