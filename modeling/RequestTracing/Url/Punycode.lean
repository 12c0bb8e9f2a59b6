/-!
Texts of any characters written with letters, digits and hyphens: the ASCII characters first, then
numbers that say which other characters go where.

The numbers are differences. With one place before, between and after the characters already there,
all pairs of a code point and a place are counted in order; each number is how many pairs are passed
over since the last insertion. Digits stand least significant first, and a digit below a threshold
ends its number.
-/
namespace RequestTracing.Url.Punycode

/-- The letter or decimal digit for a digit below thirty-six. -/
def digit (d : Nat) : Char :=
  if d < 26 then Char.ofNat ('a'.toNat + d) else Char.ofNat ('0'.toNat + (d - 26))

def digit? (c : Char) : Option Nat :=
  if 'a' ≤ c && c ≤ 'z' then some (c.toNat - 'a'.toNat)
  else if 'A' ≤ c && c ≤ 'Z' then some (c.toNat - 'A'.toNat)
  else if '0' ≤ c && c ≤ '9' then some (c.toNat - '0'.toNat + 26)
  else none

/-- The threshold of the digit at an index: the first one ends its number for small numbers only,
the later ones the more easily the longer the number is. -/
def threshold (bias index : Nat) : Nat :=
  min 26 (max 1 (36 * (index + 1) - bias))

theorem one_le_threshold (bias index : Nat) : 1 ≤ threshold bias index := by
  unfold threshold
  omega

def firstBias : Nat := 72

/-- The bias that suits numbers of the size `delta`: the larger they are, the more digits come
before the high thresholds. -/
def biasOf (delta index : Nat) : Nat :=
  if h : 455 < delta then biasOf (delta / 35) (index + 1)
  else 36 * index + 36 * delta / (delta + 38)
termination_by delta
decreasing_by exact Nat.div_lt_self (by omega) (by decide)

/-- The bias after a number `delta`, when there are `count` characters. The first number is no guide
to the size of the next one and counts for little. -/
def nextBias (delta count : Nat) ( isFirst : Bool) : Nat :=
  let delta := if isFirst then delta / 700 else delta / 2
  biasOf (delta + delta / count) 0

/-! ## Writing -/

def writeNumber (bias index n : Nat) : List Char :=
  let t := threshold bias index
  if n < t then [digit n]
  else digit (t + (n - t) % (36 - t)) :: writeNumber bias (index + 1) ((n - t) / (36 - t))
termination_by n
decreasing_by
  have := one_le_threshold bias index
  have := Nat.div_le_self (n - threshold bias index) (36 - threshold bias index)
  omega

/-- Where writing stands: the digits so far, the pairs passed over since the last insertion, and the
count of characters already there. -/
structure Writing where
  digits : List Char := []
  delta : Nat := 0
  bias : Nat := firstBias
  count : Nat
  isFirst : Bool := true

/-- Goes past the place before `c`, where `codePoint` may have to be inserted. -/
def Writing.pass (codePoint : Nat) (w : Writing) (c : Char) : Writing :=
  if c.toNat < codePoint then { w with delta := w.delta + 1 }
  else if c.toNat = codePoint then
    { digits := w.digits ++ writeNumber w.bias 0 w.delta
      delta := 0
      bias := nextBias w.delta (w.count + 1) w.isFirst
      count := w.count + 1
      isFirst := false }
  else w

def Writing.insert (cs : List Char) (next : Nat) : List Nat → Writing → Writing
  | [], w => w
  | codePoint :: later, w =>
    let w := { w with delta := w.delta + (codePoint - next) * (w.count + 1) }
    let w := cs.foldl (Writing.pass codePoint) w
    Writing.insert cs (codePoint + 1) later { w with delta := w.delta + 1 }

/-- The written form of a text. -/
def encode (cs : List Char) : List Char :=
  let basic := cs.filter (·.toNat < 0x80)
  let codePoints := (cs.filter (0x80 ≤ ·.toNat)).map Char.toNat
  let written := Writing.insert cs 0x80 (codePoints.mergeSort (· ≤ ·)).eraseDups
    { count := basic.length }
  basic ++ (if basic.isEmpty then [] else ['-']) ++ written.digits

/-- Numbers stay below this one, as do the counts of all pairs of a code point outside ASCII and a
place that are passed over. -/
def numberBound : Nat := 0x100000000

/-- The written form of a text that is short enough for all its numbers to stay below the bound. -/
def encode? (cs : List Char) : Option (List Char) :=
  if (cs.length + 1) * (0x10FFFF - 0x80) < numberBound then some (encode cs) else none

/-! ## Reading -/

/-- Where reading stands: the text so far, the pair of code point and place after the last
insertion, and the number that is being read with the weight and the index of its next digit. -/
structure Reading where
  text : List Char
  codePoint : Nat := 0x80
  place : Nat := 0
  bias : Nat := firstBias
  number : Nat := 0
  weight : Nat := 1
  index : Nat := 0
  isFirst : Bool := true

namespace Reading

def insert? (r : Reading) : Option Reading :=
  let count := r.text.length + 1
  let codePoint := r.codePoint + (r.place + r.number) / count
  let place := (r.place + r.number) % count
  if codePoint.isValidChar then
    some {
      text := r.text.take place ++ Char.ofNat codePoint :: r.text.drop place
      codePoint
      place := place + 1
      bias := nextBias r.number count r.isFirst
      isFirst := false }
  else none

def step? (r : Reading) (c : Char) : Option Reading := do
  let d ← digit? c
  let t := threshold r.bias r.index
  let r := { r with number := r.number + d * r.weight }
  if numberBound ≤ r.number then none
  else if d < t then r.insert?
  else some { r with weight := r.weight * (36 - t), index := r.index + 1 }

end Reading

/-- The parts of a written form: the ASCII characters before the last hyphen and the digits behind
it. -/
def parts (cs : List Char) : List Char × List Char :=
  let digits := (cs.reverse.takeWhile (· ≠ '-')).reverse
  match cs.take (cs.length - digits.length - 1) with
  | [] => ([], cs)
  | basic => (basic, digits)

def decode? (cs : List Char) : Option (List Char) := do
  let (basic, digits) := parts cs
  if !basic.all (·.toNat < 0x80) then none
  let read ← digits.foldlM Reading.step? { text := basic }
  if read.index = 0 then some read.text else none

end RequestTracing.Url.Punycode
