import RequestTracing.Text.Blank
import RequestTracing.Url.Basic
import RequestTracing.Url.Domain
import RequestTracing.Url.Path
/-!
Reading URLs, in the lenient way of the web: white space around and line ends within a URL are
dropped, backslashes count as slashes in special schemes, and all parts are brought to normal form.
-/
namespace RequestTracing.Url

def clean (s : String) : List Char :=
  let isEdge (c : Char) : Bool := c.toNat ≤ 0x20
  (Text.dropEnd isEdge (s.toList.dropWhile isEdge)).filter fun c =>
    c ≠ '\t' && c ≠ '\n' && c ≠ '\r'

def isSchemeChar (c : Char) : Bool :=
  c.isAlphanum || c = '+' || c = '-' || c = '.'

def readScheme? (cs : List Char) : Option (String × List Char) :=
  let scheme := cs.takeWhile isSchemeChar
  match scheme, cs.dropWhile isSchemeChar with
  | first :: _, ':' :: rest =>
    if first.isAlpha then some (String.ofList (scheme.map Char.toLower), rest) else none
  | _, _ => none

def endsAuthority (special : Bool) (c : Char) : Bool :=
  c = '/' || c = '?' || c = '#' || (special && c = '\\')

/-- The parts of a text before and after the last at sign. -/
def cutLastAt (cs : List Char) : Option (List Char) × List Char :=
  let host := (cs.reverse.takeWhile (· ≠ '@')).reverse
  if host.length = cs.length then (none, cs)
  else (some (cs.take (cs.length - host.length - 1)), host)

/-- Splits host and port at the first colon outside square brackets. -/
def cutPort (inside : Bool) : List Char → List Char × Option (List Char)
  | [] => ([], none)
  | c :: cs =>
    if c = ':' && !inside then ([], some cs)
    else
      let inside := if c = '[' then true else if c = ']' then false else inside
      let (host, port) := cutPort inside cs
      (c :: host, port)

def readHost? (cs : List Char) : Option Host :=
  match cs with
  | '[' :: inner =>
    if inner.getLast? = some ']' then (readIpv6? inner.dropLast).map .ipv6 else none
  | _ => do
    let decoded ← String.fromUTF8? ⟨(Text.percentDecode cs).toArray⟩
    let domain ← domainToAscii? decoded.toList
    if domain.isEmpty then none
    else if endsInNumber domain then (readIpv4? domain).map .ipv4
    else some (.name (String.ofList domain))

/-- Reads the host of a URL of any other scheme. -/
def readOpaqueHost? (cs : List Char) : Option Host :=
  match cs with
  | '[' :: inner =>
    if inner.getLast? = some ']' then (readIpv6? inner.dropLast).map .ipv6 else none
  | _ =>
    if cs.any isForbiddenInOpaque then none
    else some (.name (percentEncodeChars isControlByte cs))

/-- Reads a port; none is given if it is empty or implied by the scheme. -/
def readPort? (scheme : String) (cs : List Char) : Option (Option Nat) :=
  if cs.isEmpty then some none
  else (Text.readDigits? cs).bind fun port =>
    if 65535 < port then none
    else some (if impliedPort? scheme = some port then none else some port)

/-- Reads user name and password: the part before the first colon and a part after it that is not
empty. -/
def readUserinfo (cs : List Char) : String × Option String :=
  let isUserinfoEncoded (b : UInt8) : Bool :=
    isPathEncoded b ||
      ['/', ':', ';', '=', '@', '[', '\\', ']', '^', '|'].contains (Char.ofNat b.toNat)
  let encode (cs : List Char) : String := percentEncodeChars isUserinfoEncoded cs
  match Text.cut? ':' cs with
  | none => (encode cs, none)
  | some (name, []) => (encode name, none)
  | some (name, password) => (encode name, some (encode password))

def cutPath (cs : List Char) : List Char × Option (List Char) × Option (List Char) :=
  let (front, fragment) := match Text.cut? '#' cs with
    | some (front, fragment) => (front, some fragment)
    | none => (cs, none)
  match Text.cut? '?' front with
  | some (path, query) => (path, some query, fragment)
  | none => (front, none, fragment)

def readAuthority? (scheme : String) (cs : List Char) : Option Url := do
  let special := isSpecial scheme
  let authority := cs.takeWhile (!endsAuthority special ·)
  let rest := cs.dropWhile (!endsAuthority special ·)
  let (userinfo, hostPort) := cutLastAt authority
  if userinfo = some [] && hostPort.isEmpty && !rest.isEmpty then none
  let (username, password) := readUserinfo (userinfo.getD [])
  let (host, port) := cutPort false hostPort
  if host.isEmpty && (special || port.isSome || username ≠ "" || password.isSome) then none
  -- A backslash ends a port in all schemes.
  let (port, rest) := match port with
    | none => (none, rest)
    | some port =>
      (some (port.takeWhile (· ≠ '\\')), port.dropWhile (· ≠ '\\') ++ rest)
  let port ← readPort? scheme (port.getD [])
  let host ← if special then readHost? host else readOpaqueHost? host
  let (path, query, fragment) := cutPath rest
  some {
    scheme
    username
    password
    host := some host
    port
    path := normalPath special path
    query := query.map (percentEncodeChars (isQueryEncoded special))
    fragment := fragment.map (percentEncodeChars isFragmentEncoded) }

/-- Reads the URL that follows a scheme that is not special and no authority. -/
def readPlain (scheme : String) (cs : List Char) : Url :=
  let (path, query, fragment) := cutPath cs
  { scheme
    path := match path with
      | '/' :: _ => normalPath false path
      | _ => percentEncodeChars isControlByte path
    query := query.map (percentEncodeChars (isQueryEncoded false))
    fragment := fragment.map (percentEncodeChars isFragmentEncoded) }

/-- Reads the URL of a file, which has neither credentials nor a port. -/
def readFile? (cs : List Char) : Option Url :=
  let isSlash (c : Char) : Bool := c = '/' || c = '\\'
  let (host, rest) := match cs with
    | a :: b :: after =>
      if isSlash a && isSlash b then
        let host := after.takeWhile (!endsAuthority true ·)
        if isDrive host then ([], after) else (host, after.dropWhile (!endsAuthority true ·))
      else ([], cs)
    | _ => ([], cs)
  let host? : Option Host :=
    if host.isEmpty then some (.name "") else readHost? host
  host?.map fun host =>
    let (path, query, fragment) := cutPath rest
    { scheme := "file"
      host := some (if host = .name "localhost" then .name "" else host)
      path := normalPath true path
      query := query.map (percentEncodeChars (isQueryEncoded true))
      fragment := fragment.map (percentEncodeChars isFragmentEncoded) }

/-- Reads a URL. -/
def parse? (s : String) : Option Url :=
  (readScheme? (clean s)).bind fun (scheme, rest) =>
    if scheme = "file" then readFile? rest
    else if isSpecial scheme then
      readAuthority? scheme (rest.dropWhile fun c => c = '/' || c = '\\')
    else match rest with
      | '/' :: '/' :: rest => readAuthority? scheme rest
      | _ => some (readPlain scheme rest)

end RequestTracing.Url
