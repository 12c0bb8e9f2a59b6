import RequestTracing.Url.Parser
/-!
Removal of user name and password from URLs.
-/
namespace RequestTracing.Url

/-- Whether a URL may have a user name and a password: it has to have a host that is not empty, and
must not be that of a file. -/
def takesCredentials (url : Url) : Bool :=
  url.scheme != "file" && url.host.any (· != .name "")

/-- The URL without a user name, if it may have one. -/
def dropUsername? (url : Url) : Option Url :=
  if url.takesCredentials then some { url with username := "" } else none

/-- The URL without a password, if it may have one. -/
def dropPassword? (url : Url) : Option Url :=
  if url.takesCredentials then some { url with password := none } else none

/-- The URL without user name and password. A text without them, or that is no URL, stays as it
is, as does one that may not have them. -/
def removeCredentials (s : String) : String :=
  match parse? s with
  | some url =>
    if url.hasCredentials then
      match url.dropUsername?.bind dropPassword? with
      | some url => url.text
      | none => s
    else s
  | none => s

end RequestTracing.Url
