import RequestTracing.Text.Integer
import RequestTracing.Url.Host
/-!
Addresses of peers: an IP address with a port.
-/
namespace RequestTracing

inductive IpAddress where
  | v4 (address : Nat)
  | v6 (groups : List Nat)
  deriving DecidableEq, Repr

/-- The notation of an address. One of version 6 that stands for one of version 4 ends in the
notation of that. -/
def IpAddress.text : IpAddress → String
  | .v4 address => Ipv6.dotted address
  | .v6 [0, 0, 0, 0, 0, 0xFFFF, high, low] => "::ffff:" ++ Ipv6.dotted (65536 * high + low)
  | .v6 groups => Ipv6.text groups

structure SocketAddress where
  ip : IpAddress
  port : Nat
  deriving DecidableEq, Repr

namespace SocketAddress

def readPort? (cs : List Char) : Option Nat :=
  (Text.readDigits? cs).filter (· < 65536)

/-- Reads an address of version 4: four bytes without leading zeros. -/
def readIpv4? (cs : List Char) : Option Nat :=
  match (Text.pieces '.' cs).mapM Url.readByte? with
  | some [a, b, c, d] => some (((256 * a + b) * 256 + c) * 256 + d)
  | _ => none

/-- Reads an address of version 6 that may be followed by a percent sign and the number of a
zone. -/
def readZoned? (cs : List Char) : Option (List Nat) :=
  match Text.cut? '%' cs with
  | none => Url.readIpv6? cs
  | some (address, zone) =>
    ((Text.readDigits? zone).filter (· < 0x100000000)).bind fun _ => Url.readIpv6? address

def read? (s : String) : Option SocketAddress :=
  match s.toList with
  | '[' :: rest => do
    let (address, after) ← Text.cut? ']' rest
    let groups ← readZoned? address
    match after with
    | ':' :: port => return { ip := .v6 groups, port := ← readPort? port }
    | _ => none
  | cs => do
    let (address, port) ← Text.cut? ':' cs
    return { ip := .v4 (← readIpv4? address), port := ← readPort? port }

end SocketAddress

end RequestTracing
