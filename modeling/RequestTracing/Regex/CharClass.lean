import RequestTracing.Text.Blank
import RequestTracing.Unicode.CaseFolding
import RequestTracing.Unicode.Word
/-!
Classes of characters, the one-character expressions of a pattern. A class is its membership test;
the size of an expression is estimated from what stands beside it.
-/
namespace RequestTracing.Regex

structure CharClass where
  test : Char → Bool
  /-- An estimate of how many ranges of code points the class has. -/
  ranges : Nat
  /-- How many of them may have to be doubled to hold both cases of their letters. -/
  oneCase : Nat
  ascii : Bool

namespace CharClass

def empty : CharClass :=
  ⟨fun _ => false, 0, 0, true⟩

def single (c : Char) : CharClass :=
  ⟨(· == c), 1, 1, c.toNat < 0x80⟩

def range (low high : Char) : CharClass :=
  ⟨fun c => low ≤ c && c ≤ high, 1, 1, high.toNat < 0x80⟩

def union (a b : CharClass) : CharClass :=
  { test := fun c => a.test c || b.test c
    ranges := a.ranges + b.ranges
    oneCase := a.oneCase + b.oneCase
    ascii := a.ascii && b.ascii }

def inter (a b : CharClass) : CharClass :=
  { a.union b with
    test := fun c => a.test c && b.test c
    ascii := a.ascii || b.ascii }

def diff (a b : CharClass) : CharClass :=
  { a.union b with
    test := fun c => a.test c && !b.test c
    ascii := a.ascii }

def symmDiff (a b : CharClass) : CharClass :=
  { a.union b with test := fun c => a.test c != b.test c }

def compl (a : CharClass) : CharClass :=
  { a with test := fun c => !a.test c, ranges := a.ranges + 1, ascii := false }

def closeCase (a : CharClass) : CharClass :=
  { a with
    test := fun c => (Unicode.caseVariants c).any a.test
    ranges := a.ranges + a.oneCase
    oneCase := 0 }

/-- Adds the other case of each ASCII letter of the class. -/
def closeAsciiCase (a : CharClass) : CharClass :=
  { a with
    test := fun c => a.test c || a.test c.toLower || a.test c.toUpper
    ranges := a.ranges + a.oneCase
    oneCase := 0 }

/-! ## Named classes -/

def digit : CharClass := ⟨Unicode.isDigit, 71, 0, false⟩
def blank : CharClass := ⟨Text.isBlank, 10, 0, false⟩
def word : CharClass := ⟨Unicode.isWord, 802, 0, false⟩

def asciiDigit : CharClass := ⟨Char.isDigit, 1, 0, true⟩
def asciiBlank : CharClass := ⟨fun c => c = ' ' || (9 ≤ c.toNat && c.toNat ≤ 13), 2, 0, true⟩
def asciiWord : CharClass := ⟨fun c => c.isAlphanum || c = '_', 4, 0, true⟩

def named? (name : String) : Option CharClass :=
  let make (test : Char → Bool) : CharClass := ⟨fun c => c.toNat < 0x80 && test c, 4, 4, true⟩
  let isGraph (c : Char) : Bool := 0x21 ≤ c.toNat && c.toNat ≤ 0x7E
  match name with
  | "alnum" => some (make Char.isAlphanum)
  | "alpha" => some (make Char.isAlpha)
  | "ascii" => some (make fun _ => true)
  | "blank" => some (make fun c => c = ' ' || c = '\t')
  | "cntrl" => some (make fun c => c.toNat < 0x20 || c.toNat = 0x7F)
  | "digit" => some (make Char.isDigit)
  | "graph" => some (make isGraph)
  | "lower" => some (make Char.isLower)
  | "print" => some (make fun c => isGraph c || c = ' ')
  | "punct" => some (make fun c => isGraph c && !c.isAlphanum)
  | "space" => some asciiBlank
  | "upper" => some (make Char.isUpper)
  | "word" => some asciiWord
  | "xdigit" => some (make fun c => (Unicode.hexDigit? c).isSome)
  | _ => none

end CharClass

end RequestTracing.Regex
