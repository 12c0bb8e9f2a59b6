import RequestTracing.Event
import RequestTracing.Text.AsciiCase
import RequestTracing.Text.Blank
import RequestTracing.Text.Integer
import RequestTracing.Text.Pieces
import RequestTracing.Unicode.Word
/-!
Filters for log records, written as directives between commas: a level, a target, or both with an
equals sign between them. Directives may also ask for names of fields, and for spans of the
program's own log, of which there are none.
-/
namespace RequestTracing

def LogLevel.rank : LogLevel → Nat
  | .error => 1
  | .warn => 2
  | .info => 3
  | .debug => 4
  | .trace => 5

/-- One directive: which records it is about, and how detailed they may be. -/
structure LogDirective where
  target : Option String := none
  /-- Whether only records within a span are meant. -/
  inSpan : Bool := false
  /-- The fields that a record must have, each with a value to compare with, if any. -/
  fields : List (String × Option String) := []
  /-- The greatest rank that is let through, zero for none. -/
  rank : Nat := 5
  deriving DecidableEq, Repr

namespace LogDirective

/-- Reads a level, which may be given as a number; an empty text means errors. -/
def readLevel? (cs : List Char) : Option Nat :=
  match Text.readNatBelow? 0x10000000000000000 cs with
  | some n => if n ≤ 5 then some n else none
  | none =>
    let names := ["off", "error", "warn", "info", "debug", "trace"]
    let name := Text.lower (String.ofList cs)
    if cs.isEmpty then some 1 else names.findIdx? (· = name)

def readField? (cs : List Char) : Option (String × Option String) :=
  if cs.isEmpty then none
  else match (Text.pieces '=' cs).map String.ofList with
    | name :: value :: _ => some (name, some value)
    | name :: _ => some (name, none)
    | [] => none

/-- Where a reader of directives stands, with the place where the present part started. -/
inductive Place where
  | start
  | word (start : Nat)
  | span (start : Nat)
  | field (start : Nat)
  | fields
  | target
  | level (start : Nat)
  deriving DecidableEq, Repr

/-- Takes one more character of a directive. Parts are cut out of `text` by their places. -/
def step (text : List Char) (place : Place) (directive : LogDirective) (i : Nat) (c : Char) :
    Option (Place × LogDirective) :=
  let part (start : Nat) : List Char := (text.drop start).take (i - start)
  match place with
  | .start =>
    if c = '[' then some (.span (i + 1), directive)
    else if ['-', ':', '_'].contains c || Unicode.isLetter c || Unicode.isNumeric c then
      some (.word i, directive)
    else none
  | .word start =>
    let directive' := { directive with target := some (String.ofList (part start)) }
    if c = '=' then some (.level (i + 1), directive')
    else if c = '[' then some (.span (i + 1), directive')
    else some (.word start, directive)
  | .span start =>
    if c = ']' then some (.target, { directive with inSpan := true })
    else if c = '\x7b' then
      some (.field (i + 1), { directive with inSpan := !(part start).isEmpty })
    else some (.span start, directive)
  | .field start =>
    if c = '\x7d' then
      (readField? (part start)).map fun field =>
        (.fields, { directive with fields := directive.fields ++ [field] })
    else some (.field start, directive)
  | .fields => if c = ']' then some (.target, directive) else none
  | .target => if c = '=' then some (.level (i + 1), directive) else none
  | .level start => some (.level start, directive)

/-- Reads a directive. White space around it takes part in its first and last parts. -/
def read? (s : String) : Option LogDirective := do
  let text := s.toList
  let (place, directive, _) ← (Text.trimChars text).foldlM (fun (place, directive, i) c =>
    (step text place directive i c).map fun (place, directive) => (place, directive, i + 1))
    (Place.start, ({} : LogDirective), 0)
  match place with
  | .word start =>
    let word := text.drop start
    match readLevel? word with
    | some rank => some { directive with rank }
    | none => some { directive with target := some (String.ofList word) }
  | .level start =>
    let level := text.drop start
    if level.isEmpty then some directive
    else (readLevel? level).map fun rank => { directive with rank }
  | .target => some directive
  | _ => none

def isStatic (directive : LogDirective) : Bool :=
  !directive.inSpan && directive.fields.all (·.2.isNone)

def concerns (directive : LogDirective) (record : LogRecord) : Bool :=
  (directive.target.all fun target => target.toList.isPrefixOf record.target.toList) &&
    directive.fields.all fun (name, _) =>
      name = "message" || record.fields.any (·.name == name)

/-- How specific a directive is: by the length of its target, then by the number of fields. -/
def specificity (directive : LogDirective) : Nat × Nat :=
  ((directive.target.map (·.utf8ByteSize + 1)).getD 0, directive.fields.length)

def overrules (later earlier : LogDirective) : Bool :=
  let (target, fields) := later.specificity
  let (target', fields') := earlier.specificity
  target' < target || (target = target' && (fields' < fields || (fields = fields' &&
    !decide (later.fields.map (·.1) < earlier.fields.map (·.1)))))

end LogDirective

/-- The directives that can be about records outside of spans. -/
structure LogFilter where
  directives : List LogDirective := []

namespace LogFilter

/-- Reads a filter. Without any directive only errors are let through. -/
def read? (s : String) : Option LogFilter :=
  let parts := (Text.splitAt ',' s).filter (· ≠ "")
  if parts.isEmpty then some ⟨[{ rank := 1 }]⟩
  else (parts.mapM LogDirective.read?).map fun directives =>
    ⟨directives.filter (·.isStatic)⟩

/-- The directive that decides about a record: the most specific one, and among equals the last. -/
def decisive? (filter : LogFilter) (record : LogRecord) : Option LogDirective :=
  (filter.directives.filter (·.concerns record)).foldl (fun best directive =>
    match best with
    | none => some directive
    | some b => if directive.overrules b then some directive else some b) none

def allows (filter : LogFilter) (record : LogRecord) : Bool :=
  (filter.decisive? record).any fun directive => record.level.rank ≤ directive.rank

end LogFilter

end RequestTracing
