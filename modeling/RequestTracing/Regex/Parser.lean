import RequestTracing.Regex.Bracket
import RequestTracing.Regex.Property
import RequestTracing.Regex.Weight
import RequestTracing.Text.Integer
/-!
Reading patterns. A pattern is read from left to right with the open groups on a stack; every step
consumes at least one character. Patterns with look-around and back references are refused, as are
those whose automaton would be too large.
-/
namespace RequestTracing.Regex

/-- A part of a concatenation: an expression and how deep it is nested, or no expression but
switches, which cannot be repeated. -/
inductive Item where
  | expr (r : Regex) (depth : Nat)
  | switches

/-- A group being read: the switches to return to at its end, the alternatives read before the
present one, latest first, and the parts of the present one, latest first. -/
structure Group where
  outerFlags : Flags
  before : List (Regex × Nat) := []
  items : List Item := []

namespace Group

/-- The expression that the parts of an alternative, latest first, make up. -/
def concat (items : List Item) : Regex × Nat :=
  let (r, depth, count) := items.foldl (fun (r, depth, count) item =>
    match item with
    | .switches => (r, depth, count + 1)
    | .expr first d =>
      (match r with
        | none => some first
        | some r => some (.seq first r), max d depth, count + 1))
    ((none : Option Regex), 0, 0)
  (r.getD .empty, if count < 2 then depth else depth + 1)

def alternate (g : Group) : Group :=
  { g with before := concat g.items :: g.before, items := [] }

def expr (g : Group) : Regex × Nat :=
  let (last, depth) := concat g.items
  match g.before with
  | [] => (last, depth)
  | before =>
    let (r, depth) := before.foldl (fun (r, depth) (first, d) => (Regex.alt first r, max d depth))
      (last, depth)
    (r, depth + 1)

def push (g : Group) (item : Item) : Group :=
  { g with items := item :: g.items }

def repeated? (g : Group) (least : Nat) (most : Option Nat) : Option Group :=
  match g.items with
  | .expr r depth :: items =>
    some { g with items := .expr (.repeated r least most) (depth + 1) :: items }
  | _ => none

end Group

/-- The state of reading: the switches in force, the innermost group, the groups around it and the
names given to groups. -/
structure Reading where
  flags : Flags
  group : Group
  outer : List Group := []
  names : List (List Char) := []

/-- A character outside brackets. Without all scripts only ASCII letters have cases, and a byte
past ASCII is refused since it is no character. -/
def literal? (flags : Flags) (c : Char) (byte : Bool) : Option Regex :=
  if flags.unicode then some (.one (flags.close (.single c)))
  else if byte && 0x80 ≤ c.toNat then none
  else if c.toNat < 0x80 then some (.one (flags.close (.single c)))
  else some (.one (.single c))

/-- The dot: any character but a line feed, or but either line end, or any at all. -/
def dot? (flags : Flags) : Option Regex :=
  if !flags.unicode then none
  else if flags.dotAll then some (.one (CharClass.empty.compl))
  else if flags.crlf then some (.one ((CharClass.single '\n').union (.single '\r')).compl)
  else some (.one (CharClass.single '\n').compl)

def Primitive.regex? (flags : Flags) : Primitive → Option Regex
  | .literal c byte => literal? flags c byte
  | .look condition => some (.look condition)
  | .cls members => some (.one members)

def readCount? (flags : Flags) (cs : List Char) : Option (Nat × List Char) :=
  let cs := cs.dropWhile Text.isBlank
  let digits := digitsOf (cs.length + 1) cs
  if digits.1.isEmpty then none
  else
    let n := Text.digitsValue digits.1
    if n < 0x100000000 then some (n, (flags.skip digits.2).dropWhile Text.isBlank) else none
where
  digitsOf : Nat → List Char → List Char × List Char
    | 0, cs => ([], cs)
    | _, [] => ([], [])
    | fuel + 1, c :: cs =>
      if c.isDigit then
        let (digits, rest) := digitsOf fuel (flags.skip cs)
        (c :: digits, rest)
      else ([], c :: cs)

def readBounds? (flags : Flags) (cs : List Char) : Option ((Nat × Option Nat) × List Char) := do
  let (least, rest) ← readCount? flags (flags.skip cs)
  let (bounds, rest) ← match rest with
    | ',' :: rest =>
      match flags.skip rest with
      | '}' :: rest => some ((least, none), '}' :: rest)
      | rest => (readCount? flags rest).map fun (most, rest) => ((least, some most), rest)
    | rest => some ((least, some least), rest)
  match rest with
  | '}' :: rest => if bounds.2.all (bounds.1 ≤ ·) then some (bounds, rest) else none
  | _ => none

def dropLazy : List Char → List Char
  | '?' :: cs => cs
  | cs => cs

def readGroupName? (name : List Char) : List Char → Option (List Char × List Char)
  | [] => none
  | c :: cs =>
    if c = '>' then
      if name.isEmpty then none else some (name.reverse, cs)
    else if c = '_' || Unicode.isLetter c ||
        (!name.isEmpty && (Unicode.isNumeric c || c = '.' || c = '[' || c = ']')) then
      readGroupName? (c :: name) cs
    else none

namespace Reading

def push (s : Reading) (r : Regex) (depth : Nat) : Reading :=
  { s with group := s.group.push (.expr r depth) }

/-- Opens a group; its switches hold inside it. -/
def openGroup (s : Reading) (inner : Flags) : Reading :=
  { s with flags := inner, group := { outerFlags := s.flags }, outer := s.group :: s.outer }

def readOpen? (s : Reading) (cs : List Char) : Option (Reading × List Char) :=
  let named (cs : List Char) : Option (Reading × List Char) :=
    (readGroupName? [] cs).bind fun (name, rest) =>
      if s.names.contains name then none
      else some ({ s with names := name :: s.names }.openGroup s.flags, rest)
  match s.flags.skip cs with
  | '?' :: '=' :: _ | '?' :: '!' :: _ | '?' :: '<' :: '=' :: _ | '?' :: '<' :: '!' :: _ => none
  | '?' :: 'P' :: '<' :: rest => named rest
  | '?' :: '<' :: rest => named rest
  | '?' :: rest =>
    match s.flags.read? true [] rest with
    | some (flags, any, ')' :: rest) =>
      if any then some ({ s with flags, group := s.group.push .switches }, rest) else none
    | some (flags, _, ':' :: rest) => some (s.openGroup flags, rest)
    | _ => none
  | rest => some (s.openGroup s.flags, rest)

def closeGroup? (s : Reading) : Option Reading :=
  match s.outer with
  | [] => none
  | next :: outer =>
    let (r, depth) := s.group.expr
    some { s with
      flags := s.group.outerFlags
      group := next.push (.expr r (depth + 1))
      outer }

def repeated? (s : Reading) (least : Nat) (most : Option Nat) (rest : List Char) :
    Option (Reading × List Char) :=
  (s.group.repeated? least most).map fun group => ({ s with group }, dropLazy rest)

/-- Reads one part of a pattern that starts with `c`. -/
def step? (library : Library) (s : Reading) (c : Char) (cs : List Char) :
    Option (Reading × List Char) :=
  match c with
  | '(' => s.readOpen? cs
  | ')' => s.closeGroup?.map (·, cs)
  | '|' => some ({ s with group := s.group.alternate }, cs)
  | '[' => (readClass? library s.flags cs).map fun (cls, depth, rest) =>
    (s.push (.one cls) depth, rest)
  | '?' => s.repeated? 0 (some 1) cs
  | '*' => s.repeated? 0 none cs
  | '+' => s.repeated? 1 none cs
  | '{' =>
    (readBounds? s.flags cs).bind fun ((least, most), rest) =>
      s.repeated? least most (s.flags.skip rest)
  | '.' => (dot? s.flags).map fun r => (s.push r 0, cs)
  | '^' =>
    let r := if s.flags.multiLine then Look.lineStart s.flags.crlf else .textStart
    some (s.push (.look r) 0, cs)
  | '$' =>
    let r := if s.flags.multiLine then Look.lineEnd s.flags.crlf else .textEnd
    some (s.push (.look r) 0, cs)
  | '\\' => do
    let (p, rest) ← readEscape? library s.flags cs
    let r ← p.regex? s.flags
    some (s.push r 0, rest)
  | _ => (literal? s.flags c false).map fun r => (s.push r 0, cs)

def run? (library : Library) : Nat → Reading → List Char → Option Reading
  | 0, _, _ => none
  | fuel + 1, s, cs =>
    match s.flags.skip cs with
    | [] => some s
    | c :: cs => (s.step? library c cs).bind fun (s, rest) => run? library fuel s rest

end Reading

/-- The expression that a pattern stands for; none if the library refuses the pattern. Letter case
does not matter unless the pattern says so. -/
def parse? (library : Library) (pattern : String) : Option Regex :=
  let flags : Flags := { ignoreCase := true }
  let start : Reading := { flags, group := { outerFlags := flags } }
  (start.run? library (pattern.length + 1) pattern.toList).bind fun s =>
    let (r, depth) := s.group.expr
    if s.outer.isEmpty && depth ≤ maxDepth && library.fits pattern r then some r else none

namespace Library

def compile (library : Library) : Compiler := fun pattern =>
  match parse? library pattern with
  | some r => .ok r.isMatch
  | none => .error (library.complaint pattern)

/-- The library at hand. It knows general categories, scripts and the yes-or-no properties, it
estimates sizes, and of an error it only gives the start. -/
def standard : Library :=
  { property? := namedClass?
    fits := fun _ r => r.weight ≤ maxWeight
    complaint := fun pattern => "regex parse error:\n    " ++ pattern }

end Library

end RequestTracing.Regex
