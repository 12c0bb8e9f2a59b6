import RequestTracing.Unicode.Ranges
/-!
Numbers in hexadecimal notation.
-/
namespace RequestTracing.Text

export Unicode (hexDigit?)

def hexadecimal (n : Nat) : String :=
  String.ofList (Nat.toDigits 16 n)

/-- The last `width` hexadecimal digits of a number, with leading zeros. -/
def hexDigits : Nat → Nat → List Char
  | 0, _ => []
  | width + 1, n => hexDigits width (n / 16) ++ [Nat.digitChar (n % 16)]

/-- Reads digits of either case; none give zero. -/
def readHexDigits? (cs : List Char) : Option Nat :=
  cs.foldlM (fun n c => (hexDigit? c).map (16 * n + ·)) 0

end RequestTracing.Text
