import RequestTracing.Ipv6
import RequestTracing.Text.AsciiCase
import RequestTracing.Text.Integer
import RequestTracing.Text.Percent
/-!
Hosts of URLs: domains, addresses of both versions of IP, and the opaque hosts of schemes that are
not special.
-/
namespace RequestTracing.Url

/-- The host of a URL, each kind in its normal form. -/
inductive Host where
  | name (text : String)
  | ipv4 (address : Nat)
  | ipv6 (groups : List Nat)
  deriving DecidableEq, Repr

namespace Host

def text : Host → String
  | .name s => s
  | .ipv4 address => Ipv6.dotted address
  | .ipv6 groups => "[" ++ Ipv6.text groups ++ "]"

end Host

/-! ## Addresses of version 4 -/

/-- Reads a part of an address: hexadecimal after `0x`, octal after another leading zero. A part
that is too large for any address is read as such. -/
def readAddressPart? (cs : List Char) : Option Nat :=
  let value (radix : Nat) (ds : List Char) : Option Nat :=
    ds.foldlM (fun n c =>
      (Text.hexDigit? c).bind fun d => if d < radix then some (radix * n + d) else none) 0
  match cs with
  | [] => none
  | '0' :: 'x' :: ds | '0' :: 'X' :: ds => value 16 ds
  | '0' :: d :: ds => value 8 (d :: ds)
  | ds => value 10 ds

/-- The parts of a host between its dots, without an empty part at the end. -/
def addressParts (cs : List Char) : List (List Char) :=
  Text.terminated '.' cs

/-- Whether a host can only be an address, because its last part is a number. -/
def endsInNumber (cs : List Char) : Bool :=
  match (addressParts cs).getLast? with
  | some last => (!last.isEmpty && last.all Char.isDigit) || (readAddressPart? last).isSome
  | none => false

/-- Reads an address of up to four parts; the last part fills all bytes that remain. -/
def readIpv4? (cs : List Char) : Option Nat := do
  let parts ← (addressParts cs).mapM readAddressPart?
  let last ← parts.getLast?
  let front := parts.dropLast
  if 3 < front.length || front.any (255 < ·) || Nat.pow 256 (4 - front.length) ≤ last then none
  else
    some (front.foldl (fun n part => 256 * n + part) 0 * Nat.pow 256 (4 - front.length) + last)

/-! ## Addresses of version 6 -/

def readByte? (cs : List Char) : Option Nat :=
  match cs with
  | ['0'] => some 0
  | '0' :: _ => none
  | _ => (Text.readDigits? cs).filter (· < 256)

def readDottedEnd? (cs : List Char) : Option (List Nat) :=
  match (Text.pieces '.' cs).mapM readByte? with
  | some [a, b, c, d] => some [256 * a + b, 256 * c + d]
  | _ => none

def readGroup? (cs : List Char) : Option Nat :=
  if cs.isEmpty || 4 < cs.length then none else Text.readHexDigits? cs

/-- Reads groups between colons; the last may be dotted. -/
def readGroups? : List (List Char) → Option (List Nat)
  | [] => some []
  | [last] => if last.contains '.' then readDottedEnd? last else (readGroup? last).map ([·])
  | first :: rest => do
    let g ← readGroup? first
    let gs ← readGroups? rest
    some (g :: gs)

/-- The parts of a text before and after the first double colon. -/
def cutDoubleColon? : List Char → Option (List Char × List Char)
  | [] => none
  | ':' :: ':' :: rest => some ([], rest)
  | c :: cs => (cutDoubleColon? cs).map fun (before, rest) => (c :: before, rest)

/-- Reads an address of eight groups, of which a double colon may stand for one or more zeros. -/
def readIpv6? (cs : List Char) : Option (List Nat) :=
  let groups (part : List Char) : Option (List Nat) :=
    if part.isEmpty then some [] else readGroups? (Text.pieces ':' part)
  match cutDoubleColon? cs with
  | none => (groups cs).filter (·.length = 8)
  | some (before, rest) => do
    if before.contains '.' then none
    let front ← groups before
    let back ← groups rest
    if front.length + back.length < 8 then
      some (front ++ List.replicate (8 - front.length - back.length) 0 ++ back)
    else none

/-! ## Hosts -/

def isForbiddenInDomain (c : Char) : Bool :=
  c.toNat ≤ 0x20 || c.toNat = 0x7F ||
    ['%', '#', '/', ':', '<', '>', '?', '@', '[', '\\', ']', '^', '|'].contains c

def isForbiddenInOpaque (c : Char) : Bool :=
  [Char.ofNat 0, '\t', '\n', '\r', ' ', '#', '/', ':', '<', '>', '?', '@', '[', '\\', ']', '^',
    '|'].contains c

def isControlByte (b : UInt8) : Bool :=
  b.toNat < 0x20 || 0x7F ≤ b.toNat

def percentEncodeChars (encode : UInt8 → Bool) (cs : List Char) : String :=
  String.ofList (Text.percentEncode (fun b => !encode b) (cs.flatMap Text.utf8Bytes))

end RequestTracing.Url
