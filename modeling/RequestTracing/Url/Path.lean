import RequestTracing.Url.Host
/-!
Paths, queries and fragments of URLs: their percent encoding and the removal of dot segments.
-/
namespace RequestTracing.Url

def isFragmentEncoded (b : UInt8) : Bool :=
  isControlByte b || [0x20, 0x22, 0x3C, 0x3E, 0x60].contains b.toNat

def isPathEncoded (b : UInt8) : Bool :=
  isFragmentEncoded b || [0x23, 0x3F, 0x7B, 0x7D].contains b.toNat

def isQueryEncoded (special : Bool) (b : UInt8) : Bool :=
  isControlByte b || [0x20, 0x22, 0x23, 0x3C, 0x3E].contains b.toNat || (special && b.toNat == 0x27)

def isDot : List Char → Bool
  | ['.'] => true
  | ['%', '2', e] => e = 'e' || e = 'E'
  | _ => false

def isDoubleDot : List Char → Bool
  | '.' :: rest => isDot rest
  | '%' :: '2' :: e :: rest => (e = 'e' || e = 'E') && isDot rest
  | _ => false

def isDrive : List Char → Bool
  | [letter, mark] => letter.isAlpha && (mark = ':' || mark = '|')
  | _ => false

/-- Leaves the last segment of a path, given latest first. The first segment and drives stay. -/
def leaveSegment : List (List Char) → List (List Char)
  | [] => []
  | last :: rest => if isDrive last then last :: rest else rest

/-- Resolves the segments of a path that follow its first slash. The segments so far are given
latest first, each followed by a slash. -/
def resolveSegments (done : List (List Char)) : List (List Char) → List (List Char) × List Char
  | [] => (done, [])
  | [last] =>
    if isDoubleDot last then (leaveSegment done, [])
    else if isDot last then (done, [])
    else (done, last)
  | segment :: rest =>
    if isDoubleDot segment then resolveSegments (leaveSegment done) rest
    else if isDot segment then resolveSegments done rest
    else resolveSegments (segment :: done) rest

def normalPath (special : Bool) (cs : List Char) : String :=
  let cs := if special then cs.map fun c => if c = '\\' then '/' else c else cs
  if cs.isEmpty && !special then ""
  else
    let below := match cs with
      | '/' :: rest => rest
      | _ => cs
    let encoded := (Text.pieces '/' below).map fun s =>
      (percentEncodeChars isPathEncoded s).toList
    let (done, last) := resolveSegments [] encoded
    String.ofList ('/' :: (done.reverse.flatMap fun s => s ++ ['/']) ++ last)

end RequestTracing.Url
