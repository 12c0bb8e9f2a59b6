import RequestTracing.Text.AsciiCase
import RequestTracing.Text.Integer
import RequestTracing.Text.Pieces
/-!
Floating-point numbers of 64 bits, held exactly: rounding of a quotient to the nearest number, and
the shortest decimal notation that rounds back to a number.
-/
namespace RequestTracing

/-- A floating-point number. A finite one is its mantissa times a power of two. -/
inductive Binary64 where
  | nan
  | infinite (negative : Bool)
  | finite (negative : Bool) (mantissa : Nat) (exponent : Int)
  deriving DecidableEq, Repr

namespace Binary64

def minExponent : Int := -1074

def maxExponent : Int := 971

/-- The least mantissa of the numbers above the smallest ones: mantissas have 53 bits. -/
def leastMantissa : Nat := 0x10000000000000

def roundQuotient (num den : Nat) : Nat :=
  let q := num / den
  let r := num % den
  if 2 * r < den then q
  else if 2 * r = den then q + q % 2
  else q + 1

def scale (num den : Nat) (e : Int) : Nat × Nat :=
  match e with
  | .ofNat e => (num, den * Nat.pow 2 e)
  | .negSucc e => (num * Nat.pow 2 (e + 1), den)

def ofQuotient (negative : Bool) (num den : Nat) : Binary64 :=
  if num = 0 then
    .finite negative 0 minExponent
  else
    let guess : Int := (num.log2 : Int) - (den.log2 : Int) - 53
    let (n, d) := scale num den guess
    let e := max minExponent (if n / d < 2 * leastMantissa then guess else guess + 1)
    let (n, d) := scale num den e
    let m := roundQuotient n d
    let (m, e) := if m = 2 * leastMantissa then (leastMantissa, e + 1) else (m, e)
    if maxExponent < e then .infinite negative else .finite negative m e

def ofNat (n : Nat) : Binary64 :=
  ofQuotient false n 1

def ofDecimal (negative : Bool) (digits : Nat) (exponent : Int) : Binary64 :=
  let top := (Nat.toDigits 10 digits).length + exponent
  if digits = 0 || top < -400 then .finite negative 0 minExponent
  else if 400 < top then .infinite negative
  else match exponent with
    | .ofNat e => ofQuotient negative (digits * Nat.pow 10 e) 1
    | .negSucc e => ofQuotient negative digits (Nat.pow 10 (e + 1))

/-! ## The shortest decimal -/

def timesPower (n : Nat) (e : Int) : Nat × Nat :=
  match e with
  | .ofNat e => (n * Nat.pow 2 e, 1)
  | .negSucc e => (n, Nat.pow 2 (e + 1))

/-- The number of digits before the point of `num / den`, zero or less for a number below one. -/
def magnitude (num den : Nat) : Int :=
  if den ≤ num then
    ((Nat.toDigits 10 (num / den)).length : Int)
  else
    let least := (Nat.toDigits 10 ((den - 1) / num)).length
    1 - (if num * Nat.pow 10 least < den then least + 1 else least : Nat)

/-- The shortest decimal `digits * 10 ^ exponent` that rounds to `mantissa * 2 ^ exponent`, and
among those of one length the nearest, of two the greater. It is looked for among the two neighbours
of the number on the grid of each length; seventeen digits always suffice. -/
def shortestDecimal (mantissa : Nat) (exponent : Int) : Nat × Int :=
  let e := exponent - 2
  let low := if mantissa = leastMantissa && minExponent < exponent then 4 * mantissa - 1
    else 4 * mantissa - 2
  let (v, den) := timesPower (4 * mantissa) e
  let (lo, _) := timesPower low e
  let (hi, _) := timesPower (4 * mantissa + 2) e
  let even := mantissa % 2 = 0
  -- Whether `d * 10 ^ k` lies in the interval that rounds to the number.
  let inside (d : Nat) (k : Int) : Bool :=
    let (x, l, h) := match k with
      | .ofNat k => (d * Nat.pow 10 k * den, lo, hi)
      | .negSucc k => (d * den, lo * Nat.pow 10 (k + 1), hi * Nat.pow 10 (k + 1))
    if even then l ≤ x && x ≤ h else l < x && x < h
  let size := magnitude v den
  let attempt (length : Nat) : Option (Nat × Int) :=
    let k := size - length
    let (n, d) := match k with
      | .ofNat k => (v, den * Nat.pow 10 k)
      | .negSucc k => (v * Nat.pow 10 (k + 1), den)
    let below := n / d
    let nearerBelow := 2 * (n % d) < d
    match inside below k, inside (below + 1) k with
    | true, true => some (if nearerBelow then (below, k) else (below + 1, k))
    | true, false => some (below, k)
    | false, true => some (below + 1, k)
    | false, false => none
  ((List.range 17).findSome? fun i => attempt (i + 1)).getD (0, 0)

/-- A decimal written with a point where needed and never with an exponent. -/
def positional (digits : Nat) (exponent : Int) : String :=
  let ds := Nat.toDigits 10 digits
  match exponent with
  | .ofNat e => String.ofList (ds ++ List.replicate e '0')
  | .negSucc e =>
    let places := e + 1
    let padded := List.replicate (places + 1 - ds.length) '0' ++ ds
    let whole := padded.take (padded.length - places)
    String.ofList (whole ++ '.' :: padded.drop (padded.length - places))

def withoutTrailingZeros : Nat → Nat → Int → Nat × Int
  | 0, digits, exponent => (digits, exponent)
  | fuel + 1, digits, exponent =>
    if digits ≠ 0 && digits % 10 = 0 then withoutTrailingZeros fuel (digits / 10) (exponent + 1)
    else (digits, exponent)

/-- The shortest notation of a number: no exponent, and no point in whole numbers. -/
def text : Binary64 → String
  | .nan => "NaN"
  | .infinite negative => if negative then "-inf" else "inf"
  | .finite negative mantissa exponent =>
    let unsigned :=
      if mantissa = 0 then "0"
      else
        let (digits, e) := shortestDecimal mantissa exponent
        let (digits, e) := withoutTrailingZeros 20 digits e
        positional digits e
    if negative then "-" ++ unsigned else unsigned

/-! ## Reading -/

def readDecimal? (negative : Bool) (cs : List Char) : Option Binary64 :=
  let isExponentMark (c : Char) := c = 'e' || c = 'E'
  let body := cs.takeWhile (fun c => !isExponentMark c)
  let (whole, fraction) := (Text.cut? '.' body).getD (body, [])
  let digits := whole ++ fraction
  if digits.isEmpty || !digits.all Char.isDigit then
    none
  else
    let exponent : Option Int := match cs.dropWhile (fun c => !isExponentMark c) with
      | [] => some 0
      | _ :: e => Text.readInteger? e
    exponent.map fun e => ofDecimal negative (Text.digitsValue digits) (e - fraction.length)

/-- Reads a number: a decimal, an infinity or not a number, each with an optional sign. -/
def ofText? (s : String) : Option Binary64 :=
  let unsigned (negative : Bool) (cs : List Char) : Option Binary64 :=
    let word := Text.lower (String.ofList cs)
    if word = "inf" || word = "infinity" then some (.infinite negative)
    else if word = "nan" then some .nan
    else readDecimal? negative cs
  match s.toList with
  | '+' :: cs => unsigned false cs
  | '-' :: cs => unsigned true cs
  | cs => unsigned false cs

end Binary64

end RequestTracing
