import RequestTracing.Text.Hexadecimal
import RequestTracing.Text.Pieces
/-!
IP addresses of version 6 as eight groups, and their notation with the longest run of zero groups
left out.
-/
namespace RequestTracing.Ipv6

/-- The start and length of the longest run of zeros, the first of several; the run is followed by
its start and length so far. -/
def longestZeros (index start length : Nat) (best : Nat × Nat) : List Nat → Nat × Nat
  | [] => best
  | g :: gs =>
    if g = 0 then
      let best := if best.2 < length + 1 then (start, length + 1) else best
      longestZeros (index + 1) start (length + 1) best gs
    else longestZeros (index + 1) (index + 1) 0 best gs

def groupsText (groups : List Nat) : String :=
  ":".intercalate (groups.map Text.hexadecimal)

/-- The notation of an address. A run of at least two zero groups is left out. -/
def text (groups : List Nat) : String :=
  let (start, length) := longestZeros 0 0 0 (0, 0) groups
  if length < 2 then groupsText groups
  else groupsText (groups.take start) ++ "::" ++ groupsText (groups.drop (start + length))

def dotted (n : Nat) : String :=
  ".".intercalate ([n / 0x1000000 % 256, n / 0x10000 % 256, n / 0x100 % 256, n % 256].map
    fun b => String.ofList (Nat.toDigits 10 b))

end RequestTracing.Ipv6
