import RequestTracing.Http.Authority
/-!
Targets of requests: a path with an optional query, a whole URL, an authority alone, or an asterisk.
-/
namespace RequestTracing.Http

structure Uri where
  scheme : Option String := none
  authority : Option String := none
  path : String := ""
  query : Option String := none
  deriving DecidableEq, Repr

namespace Uri

def maxLength : Nat := 65534

def maxSchemeLength : Nat := 64

def isSchemeChar (c : Char) : Bool :=
  c.isAlphanum || ['+', '-', '.', '~'].contains c

def isPathChar (c : Char) : Bool :=
  0x80 ≤ c.toNat ||
    (0x21 ≤ c.toNat && c.toNat ≤ 0x7E && !(['#', '<', '>', '?', '`'].contains c))

def isQueryChar (c : Char) : Bool :=
  0x80 ≤ c.toNat ||
    (0x21 ≤ c.toNat && c.toNat ≤ 0x7E && !(['"', '#', '<', '>'].contains c))

def readPath (cs : List Char) : Except UriError (String × Option String) := do
  let path := cs.takeWhile fun c => c ≠ '?' && c ≠ '#'
  if !path.all isPathChar then throw .invalidCharacter
  match cs.drop path.length with
  | '?' :: rest =>
    let query := rest.takeWhile (· ≠ '#')
    if !query.all isQueryChar then throw .invalidCharacter
    return (String.ofList path, some (String.ofList query))
  | _ => return (String.ofList path, none)

/-- Reads the scheme and what stands between it and the authority. The two schemes of the web are
read in any letter case. -/
def readScheme (cs : List Char) : Except UriError (Option String × List Char) :=
  match Text.after? "http://".toList (cs.map Char.toLower),
      Text.after? "https://".toList (cs.map Char.toLower) with
  | some _, _ => .ok (some "http", cs.drop 7)
  | _, some _ => .ok (some "https", cs.drop 8)
  | none, none =>
    let scheme := cs.takeWhile isSchemeChar
    match cs.drop scheme.length with
    | ':' :: '/' :: '/' :: rest =>
      if cs.length ≤ 3 then .ok (none, cs)
      else if maxSchemeLength < scheme.length then .error .schemeTooLong
      else .ok (some (String.ofList scheme), rest)
    | _ => .ok (none, cs)

/-- Reads a target of more than one character that does not start with a slash. -/
def readFull (cs : List Char) : Except UriError Uri := do
  let (scheme, rest) ← readScheme cs
  if rest.isEmpty then throw .empty
  let authority := rest.takeWhile (!endsAuthority ·)
  let rest := rest.drop authority.length
  checkAuthority authority
  match scheme with
  | none =>
    if !rest.isEmpty then throw .invalidFormat
    return { authority := some (String.ofList authority) }
  | some scheme =>
    if authority.isEmpty then throw .invalidFormat
    let (path, query) ← readPath rest
    return { scheme := some scheme, authority := some (String.ofList authority), path, query }

def read (s : String) : Except UriError Uri :=
  if maxLength < s.utf8ByteSize then .error .tooLong
  else match s.toList with
    | [] => .error .empty
    | ['*'] => .ok { path := "*" }
    | '/' :: rest => do
      let (path, query) ← readPath ('/' :: rest)
      return { path, query }
    | [c] => do return { authority := some (← readAuthority [c]) }
    | cs => readFull cs

/-- The path that is asked for: that of a whole URL is not empty. -/
def shownPath (uri : Uri) : String :=
  if uri.path = "" && (uri.scheme.isSome || uri.query.isSome) then "/" else uri.path

/-- Path and query as they were written, unless the target is an authority alone. -/
def target? (uri : Uri) : Option String :=
  if uri.scheme.isSome || uri.authority.isNone then
    match uri.query with
    | some query => some (uri.path ++ "?" ++ query)
    | none => some (if uri.path = "" then "/" else uri.path)
  else none

def impliedPort (uri : Uri) : Nat :=
  if uri.scheme = some "https" then 443 else 80

end Uri

end RequestTracing.Http
