/-!
Sets of characters given as ranges of code points in hexadecimal notation, the form in which the
tables of character properties are kept.
-/
namespace RequestTracing.Unicode

/-- A set of characters: ranges of code points, both ends included. -/
structure Ranges where
  list : List (Nat × Nat)

def hexDigit? (c : Char) : Option Nat :=
  if '0' ≤ c && c ≤ '9' then some (c.toNat - '0'.toNat)
  else if 'a' ≤ c && c ≤ 'f' then some (c.toNat - 'a'.toNat + 10)
  else if 'A' ≤ c && c ≤ 'F' then some (c.toNat - 'A'.toNat + 10)
  else none

namespace Ranges

/-- Where a reader of ranges stands: the ranges so far, the lower end of the present one if a hyphen
followed it, and the digits read last. -/
structure Reading where
  done : List (Nat × Nat) := []
  low : Option Nat := none
  digits : Option Nat := none

def Reading.finish (r : Reading) : Reading :=
  match r.digits with
  | some n => { done := (r.low.getD n, n) :: r.done }
  | none => r

def Reading.step (r : Reading) (c : Char) : Reading :=
  match hexDigit? c with
  | some d => { r with digits := some (16 * r.digits.getD 0 + d) }
  | none => if c = '-' then { r with low := r.digits, digits := none } else r.finish

/-- Reads ranges such as `41-5A` and single code points, separated by blanks and ends of lines. -/
def parse (s : String) : Ranges :=
  ⟨(s.toList.foldl Reading.step {}).finish.done.reverse⟩

def contains (r : Ranges) (c : Char) : Bool :=
  r.list.any fun (low, high) => low ≤ c.toNat && c.toNat ≤ high

end Ranges

end RequestTracing.Unicode
