import RequestTracing.Binary64
import RequestTracing.Text.Hexadecimal
/-!
Numbers, truth values and dates in TOML. Only the truth values are kept; the others are checked for
their form and their range.
-/
namespace RequestTracing.Toml

def isDigitRun (isDigit : Char → Bool) (cs : List Char) : Bool :=
  (Text.pieces '_' cs).all fun part => !part.isEmpty && part.all isDigit

def withoutUnderscores (cs : List Char) : List Char :=
  cs.filter (· ≠ '_')

def unsigned : List Char → List Char
  | '+' :: cs => cs
  | '-' :: cs => cs
  | cs => cs

/-- Whether a text is a decimal without leading zeros, after an optional sign. -/
def isDecimalForm (cs : List Char) : Bool :=
  match unsigned cs with
  | ['0'] => true
  | '0' :: _ => false
  | digits => isDigitRun Char.isDigit digits

/-- Whether a text is a number in some other radix that fits in 64 bits with a sign. -/
def isRadixNumber (radix : Nat) (cs : List Char) : Bool :=
  let isDigit (c : Char) : Bool := (Text.hexDigit? c).any (· < radix)
  let value := (withoutUnderscores cs).foldl (fun n c => radix * n + (Text.hexDigit? c).getD 0) 0
  isDigitRun isDigit cs && decide (value < 0x8000000000000000)

def isInteger (cs : List Char) : Bool :=
  match cs with
  | '0' :: 'x' :: digits => isRadixNumber 16 digits
  | '0' :: 'o' :: digits => isRadixNumber 8 digits
  | '0' :: 'b' :: digits => isRadixNumber 2 digits
  | _ => isDecimalForm cs && (Text.readInt64? (withoutUnderscores cs)).isSome

/-- Whether a text is a decimal with a fraction, an exponent or both, and not too large. -/
def isDecimalFloat (cs : List Char) : Bool :=
  let isMark (c : Char) : Bool := c = 'e' || c = 'E'
  let body := cs.takeWhile (!isMark ·)
  let exponent := cs.drop body.length
  let (whole, fraction) := match Text.cut? '.' body with
    | some (whole, fraction) => (whole, some fraction)
    | none => (body, none)
  isDecimalForm whole && fraction.all (isDigitRun Char.isDigit) &&
    (match exponent with
      | [] => fraction.isSome
      | _ :: e => isDigitRun Char.isDigit (unsigned e)) &&
    Binary64.ofText? (String.ofList (withoutUnderscores cs)) != some (.infinite false)

def isFloat (cs : List Char) : Bool :=
  ["inf".toList, "nan".toList].contains (unsigned cs) || isDecimalFloat cs

def readFixed? (width low high : Nat) (cs : List Char) : Option (Nat × List Char) :=
  ((Text.readDigits? (cs.take width)).filter fun n => low ≤ n && n ≤ high).bind fun n =>
    if cs.length < width then none else some (n, cs.drop width)

def daysInMonth (year month : Nat) : Nat :=
  if month = 2 then
    if year % 4 = 0 && (year % 100 ≠ 0 || year % 400 = 0) then 29 else 28
  else if [4, 6, 9, 11].contains month then 30
  else 31

def afterDate? (cs : List Char) : Option (List Char) := do
  let (year, cs) ← readFixed? 4 0 9999 cs
  let (month, cs) ← readFixed? 2 1 12 (← Text.after? ['-'] cs)
  let (_, cs) ← readFixed? 2 1 (daysInMonth year month) (← Text.after? ['-'] cs)
  some cs

/-- What follows a time of day, which may have a fraction of a second. -/
def afterTime? (cs : List Char) : Option (List Char) := do
  let (_, cs) ← readFixed? 2 0 23 cs
  let (_, cs) ← readFixed? 2 0 59 (← Text.after? [':'] cs)
  let (_, cs) ← readFixed? 2 0 60 (← Text.after? [':'] cs)
  match cs with
  | '.' :: cs => if cs.head?.any Char.isDigit then some (cs.dropWhile Char.isDigit) else none
  | _ => some cs

def isOffset (cs : List Char) : Bool :=
  match cs with
  | [] | ['Z'] | ['z'] => true
  | sign :: cs =>
    (sign = '+' || sign = '-') && ((do
      let (_, cs) ← readFixed? 2 0 23 cs
      let (_, cs) ← readFixed? 2 0 59 (← Text.after? [':'] cs)
      some cs) : Option (List Char)) = some []

def isZonedTime (cs : List Char) : Bool :=
  (afterTime? cs).any isOffset

/-- Whether a text is a time of day, a date, or a date and a time with a letter between them. -/
def isDateTime (cs : List Char) : Bool :=
  afterTime? cs = some [] || (afterDate? cs).any fun
    | [] => true
    | mark :: time => (mark = 'T' || mark = 't') && isZonedTime time

inductive Scalar where
  | boolean (value : Bool)
  | quantity
  deriving DecidableEq, Repr

def isScalarChar (c : Char) : Bool :=
  c.isAlphanum || ['_', '+', '-', '.', ':'].contains c

/-- Reads a scalar. A space may stand between a date and a time. -/
def readScalar? (cs : List Char) : Option (Scalar × List Char) :=
  let word := cs.takeWhile isScalarChar
  let rest := cs.drop word.length
  if word = "true".toList then some (.boolean true, rest)
  else if word = "false".toList then some (.boolean false, rest)
  else if afterDate? word = some [] then
    match rest with
    | ' ' :: after =>
      let time := after.takeWhile isScalarChar
      if isZonedTime time then some (.quantity, after.drop time.length) else some (.quantity, rest)
    | _ => some (.quantity, rest)
  else if isDateTime word || isInteger word || isFloat word then some (.quantity, rest)
  else none

end RequestTracing.Toml
