/-!
Whole numbers in decimal notation.
-/
namespace RequestTracing.Text

/-- The value of a run of digits, most significant first. -/
def digitsValue (digits : List Char) : Nat :=
  digits.foldl (fun n c => 10 * n + (c.toNat - '0'.toNat)) 0

def readDigits? (cs : List Char) : Option Nat :=
  if !cs.isEmpty && cs.all Char.isDigit then some (digitsValue cs) else none

def readInteger? : List Char → Option Int
  | '+' :: cs => (readDigits? cs).map Int.ofNat
  | '-' :: cs => (readDigits? cs).map fun n => -Int.ofNat n
  | cs => (readDigits? cs).map Int.ofNat

def isInt64 (n : Int) : Bool :=
  decide (-0x8000000000000000 ≤ n) && decide (n < 0x8000000000000000)

def readInt64? (cs : List Char) : Option Int :=
  (readInteger? cs).filter isInt64

/-- Reads digits after an optional plus sign, below a limit. -/
def readNatBelow? (limit : Nat) : List Char → Option Nat
  | '+' :: cs => (readDigits? cs).filter (· < limit)
  | cs => (readDigits? cs).filter (· < limit)

def decimal (n : Int) : String :=
  match n with
  | .ofNat n => String.ofList (Nat.toDigits 10 n)
  | .negSucc n => String.ofList ('-' :: Nat.toDigits 10 (n + 1))

end RequestTracing.Text
