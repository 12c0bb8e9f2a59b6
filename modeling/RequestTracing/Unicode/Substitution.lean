import RequestTracing.Text.Hexadecimal
import RequestTracing.Text.Pieces
/-!
Tables that replace characters by others, in a notation of code points in hexadecimal.
-/
namespace RequestTracing.Unicode

/-- A rule for the code points from `low` to `high`: `low` is replaced by `target`, and each
later one by characters as much later. -/
structure Replacement where
  low : Nat
  high : Nat
  target : List Nat

namespace Replacement

def read? (cs : List Char) : Option Replacement := do
  let (source, target) ← Text.cut? '=' cs
  let target ← (Text.pieces '.' target).mapM Text.readHexDigits?
  match ← (Text.pieces '-' source).mapM Text.readHexDigits? with
  | [c] => some ⟨c, c, target⟩
  | [low, high] => some ⟨low, high, target⟩
  | _ => none

def targetOf? (r : Replacement) (c : Char) : Option (List Char) :=
  if r.low ≤ c.toNat && c.toNat ≤ r.high then
    some (r.target.map fun n => Char.ofNat (n + (c.toNat - r.low)))
  else none

end Replacement

structure Substitution where
  rules : List Replacement

namespace Substitution

def parse (s : String) : Substitution :=
  let words := Text.pieces ' ' (s.toList.map fun c => if c = '\n' then ' ' else c)
  ⟨words.filterMap Replacement.read?⟩

def targetOf? (t : Substitution) (c : Char) : Option (List Char) :=
  t.rules.findSome? (·.targetOf? c)

def sourceOf? (t : Substitution) (cs : List Char) : Option Char :=
  (t.rules.find? (·.target = cs.map Char.toNat)).map fun r => Char.ofNat r.low

end Substitution

end RequestTracing.Unicode
