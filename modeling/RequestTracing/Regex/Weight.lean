import RequestTracing.Regex.Basic
/-!
Limits on regular expressions. An expression is refused if the automaton for it would be too large;
counted repetitions of large classes reach that limit.
-/
namespace RequestTracing.Regex

def matchesOnlyEmpty : Regex → Bool
  | .empty | .look _ => true
  | .one _ => false
  | .seq first second | .alt first second => first.matchesOnlyEmpty && second.matchesOnlyEmpty
  | .repeated body _ most => body.matchesOnlyEmpty || most == some 0

/-- The memory in bytes that the automaton of an expression takes, by an estimate. -/
def weight : Regex → Nat
  | .empty | .look _ => 32
  | .one cls => if cls.ascii then 64 + 8 * cls.ranges else 450 + 63 * cls.ranges
  | .seq first second => first.weight + second.weight
  | .alt first second => first.weight + second.weight + 8
  | .repeated body least most =>
    let copies := match most with
      | some most => most
      | none => least + 1
    if body.matchesOnlyEmpty then body.weight else copies * body.weight + 40

def maxWeight : Nat := 10 * 1024 * 1024

def maxDepth : Nat := 250

end RequestTracing.Regex
