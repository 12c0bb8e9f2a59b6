import RequestTracing.Text.Integer
import RequestTracing.Text.Pieces
/-!
Authorities: the part of a target that names user, host and port. The text is kept as it is once it
has been found well formed.
-/
namespace RequestTracing.Http

inductive UriError where
  | tooLong
  | empty
  | schemeTooLong
  | invalidFormat
  | invalidAuthority
  | invalidCharacter
  deriving DecidableEq, Repr

def UriError.message : UriError → String
  | .tooLong => "uri too long"
  | .empty => "empty string"
  | .schemeTooLong => "scheme too long"
  | .invalidFormat => "invalid format"
  | .invalidAuthority => "invalid authority"
  | .invalidCharacter => "invalid uri character"

/-- The characters that may stand in an authority, apart from the percent sign. -/
def isAuthorityChar (c : Char) : Bool :=
  c.isAlphanum ||
    ['!', '$', '&', '\'', '(', ')', '*', '+', ',', '-', '.', ':', ';', '=', '@', '[', ']', '_',
      '~'].contains c

/-- What is known of an authority after some of its characters. -/
structure AuthorityScan where
  /-- The colons since the last at sign or closing bracket. -/
  colons : Nat := 0
  opened : Bool := false
  closed : Bool := false
  /-- Whether there was a percent sign since the last at sign or closing bracket. -/
  percent : Bool := false
  deriving DecidableEq, Repr

/-- Takes one more character of an authority. There is at most one pair of brackets, and no percent
sign between an at sign and an opening bracket. -/
def AuthorityScan.step (scan : AuthorityScan) (c : Char) : Except UriError AuthorityScan :=
  match c with
  | ':' =>
    if 8 ≤ scan.colons then .error .invalidAuthority
    else .ok { scan with colons := scan.colons + 1 }
  | '[' =>
    if scan.percent || scan.opened then .error .invalidAuthority
    else .ok { scan with opened := true }
  | ']' =>
    if !scan.opened || scan.closed then .error .invalidAuthority
    else .ok { scan with closed := true, colons := 0, percent := false }
  | '@' => .ok { scan with colons := 0, percent := false }
  | '%' => .ok { scan with percent := true }
  | _ => if isAuthorityChar c then .ok scan else .error .invalidCharacter

/-- Checks an authority. Host and port have one colon at most and no percent sign, and they do not
lack altogether after an at sign. -/
def checkAuthority (cs : List Char) : Except UriError Unit := do
  let scan ← cs.foldlM AuthorityScan.step {}
  if scan.opened != scan.closed || 1 < scan.colons || cs.getLast? = some '@' || scan.percent then
    throw .invalidAuthority

def endsAuthority (c : Char) : Bool :=
  c = '/' || c = '?' || c = '#'

/-- Reads a text that is an authority and nothing else. -/
def readAuthority (cs : List Char) : Except UriError String := do
  if cs.isEmpty then throw .empty
  checkAuthority (cs.takeWhile (!endsAuthority ·))
  if cs.any endsAuthority then throw .invalidCharacter
  return String.ofList cs

def authorityHost (authority : String) : String :=
  let host := (authority.toList.reverse.takeWhile (· ≠ '@')).reverse
  match host with
  | '[' :: _ => String.ofList (host.takeWhile (· ≠ ']') ++ [']'])
  | _ => String.ofList (host.takeWhile (· ≠ ':'))

/-- The port in an authority, if there is a valid one. -/
def authorityPort? (authority : String) : Option Nat :=
  let cs := authority.toList
  if cs.contains ':' then
    Text.readNatBelow? 65536 (cs.reverse.takeWhile (· ≠ ':')).reverse
  else none

end RequestTracing.Http
