import RequestTracing.Regex.CharClass
/-!
Regular expressions over characters and the test whether one matches somewhere in a text. A match
is followed as a set of places in the text: each expression takes the places where it may start to
the places where it may end.
-/
namespace RequestTracing

namespace Regex

inductive Look where
  | textStart
  | textEnd
  /-- The start of a line; lines may also end with a carriage return if `crlf`. -/
  | lineStart (crlf : Bool)
  | lineEnd (crlf : Bool)
  | word (isWord : Char → Bool) (holds : Bool → Bool → Bool)

/-- A place in a text, by the characters around it. -/
structure Place where
  before : Option Char
  after : Option Char

def Look.holds : Look → Place → Bool
  | .textStart, p => p.before.isNone
  | .textEnd, p => p.after.isNone
  | .lineStart false, p => p.before.isNone || p.before == some '\n'
  | .lineEnd false, p => p.after.isNone || p.after == some '\n'
  | .lineStart true, p =>
    p.before.isNone || p.before == some '\n' || (p.before == some '\r' && p.after != some '\n')
  | .lineEnd true, p =>
    p.after.isNone || p.after == some '\r' || (p.after == some '\n' && p.before != some '\r')
  | .word isWord holds, p => holds (p.before.any isWord) (p.after.any isWord)

end Regex

/-- A regular expression. -/
inductive Regex where
  | empty
  | one (cls : Regex.CharClass)
  | look (condition : Regex.Look)
  | seq (first second : Regex)
  | alt (first second : Regex)
  | repeated (body : Regex) (least : Nat) (most : Option Nat)

namespace Regex

def places (before : Option Char) : List Char → List Place
  | [] => [⟨before, none⟩]
  | c :: cs => ⟨before, some c⟩ :: places (some c) cs

/-- A set of places, as one mark for each place of the text. -/
abbrev Marks := List Bool

/-- Marks the places that follow a marked one across a character of the class. -/
def advance (test : Char → Bool) (marked : Bool) : List Place → Marks → Marks
  | p :: ps, m :: ms => marked :: advance test (m && p.after.any test) ps ms
  | _, _ => []

/-- Applies a step to the marks `n` times, or fewer if no mark is left. -/
def times (step : Marks → Marks) : Nat → Marks → Marks
  | 0, marks => marks
  | n + 1, marks => if marks.any id then times step n (step marks) else marks

/-- Applies a step to the marks up to `n` times and keeps the marks made on the way. -/
def upTo (step : Marks → Marks) : Nat → Marks → Marks
  | 0, marks => marks
  | n + 1, marks => upTo step n (List.zipWith (· || ·) marks (step marks))

/-- The places where a match may end that starts at one of the marked places. As many rounds of a
repetition as there are places reach every place it can reach. -/
def follow (ps : List Place) : Regex → Marks → Marks
  | .empty, marks => marks
  | .one cls, marks => advance cls.test false ps marks
  | .look condition, marks => List.zipWith (fun m p => m && condition.holds p) marks ps
  | .seq first second, marks => follow ps second (follow ps first marks)
  | .alt first second, marks =>
    List.zipWith (· || ·) (follow ps first marks) (follow ps second marks)
  | .repeated body least most, marks =>
    let more := match most with
      | some most => min (most - least) ps.length
      | none => ps.length
    upTo (follow ps body) more (times (follow ps body) least marks)

/-- Whether the expression matches somewhere in a text. -/
def isMatch (r : Regex) (text : String) : Bool :=
  let ps := places none text.toList
  (follow ps r (ps.map fun _ => true)).any id

end Regex

end RequestTracing
