import RequestTracing.Regex.Escape
/-!
Classes in square brackets: unions of characters, ranges and named classes, nested classes, and the
intersection, difference and symmetric difference of classes.
-/
namespace RequestTracing.Regex

/-- An open bracket with what was read since. -/
structure Bracket where
  negated : Bool
  /-- An operation whose right side is being read, with its left side and the depth of that. -/
  pending : Option ((CharClass → CharClass → CharClass) × CharClass × Nat) := none
  items : CharClass := .empty
  count : Nat := 0
  depth : Nat := 0

namespace Bracket

def add (b : Bracket) (cls : CharClass) (depth : Nat) : Bracket :=
  { b with
    items := b.items.union cls
    count := b.count + 1
    depth := max b.depth depth }

def value (flags : Flags) (b : Bracket) : CharClass :=
  match b.pending with
  | none => b.items
  | some (op, left, _) => op (flags.close left) (flags.close b.items)

/-- How deep what was read so far is nested: an operation counts, and so does a union. -/
def reach (b : Bracket) : Nat :=
  let items := if b.count < 2 then b.depth else b.depth + 1
  match b.pending with
  | none => items
  | some (_, _, left) => max left items + 1

def operate (flags : Flags) (b : Bracket) (op : CharClass → CharClass → CharClass) : Bracket :=
  { negated := b.negated, pending := some (op, b.value flags, b.reach) }

def close? (flags : Flags) (b : Bracket) : Option CharClass :=
  flags.compl? b.negated (flags.close (b.value flags))

end Bracket

def readHyphens (skip : List Char → List Char) :
    Nat → Bracket → List Char → Bracket × List Char
  | 0, b, cs => (b, cs)
  | fuel + 1, b, cs =>
    match cs with
    | '-' :: rest => readHyphens skip fuel (b.add (.single '-') 0) (skip rest)
    | _ => (b, cs)

/-- Reads the start of a class, after its opening bracket: a sign of negation, hyphens, and a
closing bracket that stands for itself if it comes first. -/
def openBracket (flags : Flags) (cs : List Char) : Bracket × List Char :=
  let cs := flags.skip cs
  let (negated, cs) := match cs with
    | '^' :: rest => (true, flags.skip rest)
    | _ => (false, cs)
  let (b, rest) := readHyphens flags.skip cs.length { negated } cs
  match rest with
  | ']' :: after =>
    if b.count = 0 then (b.add (.single ']') 0, flags.skip after) else (b, rest)
  | _ => (b, rest)

def readNamed? (flags : Flags) : List Char → Option (Option CharClass × List Char)
  | ':' :: cs =>
    let (negated, cs) := match cs with
      | '^' :: cs => (true, cs)
      | _ => (false, cs)
    match cs.dropWhile (· ≠ ':') with
    | ':' :: ']' :: rest =>
      (CharClass.named? (String.ofList (cs.takeWhile (· ≠ ':')))).map fun cls =>
        (flags.compl? negated (flags.close cls), rest)
    | _ => none
  | _ => none

def readItem? (library : Library) (flags : Flags) : List Char → Option (Primitive × List Char)
  | [] => none
  | '\\' :: cs => readEscape? library flags cs
  | c :: cs => some (.literal c false, cs)

/-- The class of an item. Without all scripts only ASCII characters may stand in a class. -/
def Primitive.item? (flags : Flags) : Primitive → Option CharClass
  | .literal c _ => if flags.unicode || c.toNat < 0x80 then some (.single c) else none
  | .cls members => some members
  | .look _ => none

def readRange? (library : Library) (flags : Flags) (cs : List Char) :
    Option (CharClass × List Char) := do
  let (first, rest) ← readItem? library flags cs
  let rest := flags.skip rest
  let lone : Option (CharClass × List Char) := (first.item? flags).map (·, rest)
  match rest with
  | [] => none
  | '-' :: after =>
    if flags.peek? after = some ']' || flags.peek? after = some '-' then lone
    else
      let (last, rest) ← readItem? library flags (flags.skip after)
      match first, last with
      | .literal low _, .literal high _ =>
        if low ≤ high && (flags.unicode || high.toNat < 0x80) then
          some (.range low high, rest)
        else none
      | _, _ => none
  | _ => lone

/-- Reads a class up to the bracket that closes the outermost open one, given the open brackets
from the inside out, and also returns how deep it is nested. -/
def readBracket (library : Library) (flags : Flags) : Nat → Bracket → List Bracket → List Char →
    Option (CharClass × Nat × List Char)
  | 0, _, _, _ => none
  | fuel + 1, b, outer, cs =>
    match flags.skip cs with
    | [] => none
    | '[' :: cs =>
      match readNamed? flags cs with
      | some (cls, rest) =>
        cls.bind fun cls => readBracket library flags fuel (b.add cls 0) outer rest
      | none =>
        let (inner, rest) := openBracket flags cs
        readBracket library flags fuel inner (b :: outer) rest
    | ']' :: rest =>
      (b.close? flags).bind fun cls =>
        match outer with
        | [] => some (cls, b.reach + 1, rest)
        | next :: outer => readBracket library flags fuel (next.add cls (b.reach + 1)) outer rest
    | '&' :: '&' :: rest => readBracket library flags fuel (b.operate flags .inter) outer rest
    | '-' :: '-' :: rest => readBracket library flags fuel (b.operate flags .diff) outer rest
    | '~' :: '~' :: rest => readBracket library flags fuel (b.operate flags .symmDiff) outer rest
    | cs =>
      (readRange? library flags cs).bind fun (cls, rest) =>
        readBracket library flags fuel (b.add cls 0) outer rest

def readClass? (library : Library) (flags : Flags) (cs : List Char) :
    Option (CharClass × Nat × List Char) :=
  let (b, rest) := openBracket flags cs
  readBracket library flags (cs.length + 1) b [] rest

end RequestTracing.Regex
