import RequestTracing.Regex.Parser
import RequestTracing.Text.AsciiCase
/-!
Patterns for header names. A pattern without special characters is a name; any other is a regular
expression that may match anywhere in a name, and it is left to a library what it matches and
whether it is one. In plain names neither letter case matters nor the choice between hyphen and
underscore.
-/
namespace RequestTracing

def specialCharacters : List Char :=
  ['\\', '.', '^', '$', '|', '?', '*', '+', '(', ')', '[', ']', '{', '}']

/-- The form in which plain names are compared. -/
def foldName (name : String) : String :=
  Text.exchange '_' '-' (Text.lower name)

inductive HeaderPattern where
  | literal (folded : String)
  | regex (test : String → Bool)

/-- What a written pattern turns out to be. -/
inductive HeaderPattern.Reading where
  | blank
  /-- A pattern that is refused, without white space around it, and the reason. -/
  | malformed (pattern error : String)
  | pattern (p : HeaderPattern)

namespace HeaderPattern

def isMatch (p : HeaderPattern) (name : String) : Bool :=
  match p with
  | .literal folded => folded == foldName name
  | .regex test => test name

def isExpression (pattern : String) : Bool :=
  pattern.toList.any specialCharacters.contains

def read (written : String) (compile : Regex.Compiler := Regex.Library.standard.compile) :
    Reading :=
  let pattern := Text.trim written
  if pattern = "" then .blank
  else if !isExpression pattern then .pattern (.literal (foldName pattern))
  else match compile pattern with
    | .ok test => .pattern (.regex test)
    | .error error => .malformed pattern error

def Reading.pattern? : Reading → Option HeaderPattern
  | .pattern p => some p
  | _ => none

def Reading.malformed? : Reading → Option (String × String)
  | .malformed written error => some (written, error)
  | _ => none

end HeaderPattern

structure HeaderMatcher where
  patterns : List HeaderPattern := []

namespace HeaderMatcher

/-- The usable ones among written patterns. -/
def ofPatterns (written : List String)
    (compile : Regex.Compiler := Regex.Library.standard.compile) : HeaderMatcher :=
  ⟨written.filterMap fun w => (HeaderPattern.read w compile).pattern?⟩

/-- The malformed ones among written patterns, in order, and what is wrong with them. -/
def malformed (written : List String)
    (compile : Regex.Compiler := Regex.Library.standard.compile) : List (String × String) :=
  written.filterMap fun w => (HeaderPattern.read w compile).malformed?

def isEmpty (m : HeaderMatcher) : Bool :=
  m.patterns.isEmpty

def isMatch (m : HeaderMatcher) (name : String) : Bool :=
  m.patterns.any (·.isMatch name)

end HeaderMatcher

def matchesAny (name : String) (written : List String)
    (compile : Regex.Compiler := Regex.Library.standard.compile) : Bool :=
  (HeaderMatcher.ofPatterns written compile).isMatch name

end RequestTracing
