/-!
The switches that change how a pattern is read.
-/
namespace RequestTracing.Regex

structure Flags where
  ignoreCase : Bool
  multiLine : Bool := false
  dotAll : Bool := false
  swapGreed : Bool := false
  /-- Whether classes are those of all scripts; if not, only ASCII characters may be matched. -/
  unicode : Bool := true
  crlf : Bool := false
  verbose : Bool := false
  deriving DecidableEq, Repr

def Flags.switch? (flags : Flags) (letter : Char) (on : Bool) : Option Flags :=
  match letter with
  | 'i' => some { flags with ignoreCase := on }
  | 'm' => some { flags with multiLine := on }
  | 's' => some { flags with dotAll := on }
  | 'U' => some { flags with swapGreed := on }
  | 'u' => some { flags with unicode := on }
  | 'R' => some { flags with crlf := on }
  | 'x' => some { flags with verbose := on }
  | _ => none

/-- Reads switches up to a colon or a closing parenthesis, and returns the new flags, whether any
switch was read, and the rest from that character on. -/
def Flags.read? (flags : Flags) (on : Bool) (seen : List Char) :
    List Char → Option (Flags × Bool × List Char)
  | [] => none
  | c :: cs =>
    if c = ':' || c = ')' then
      if seen.head? = some '-' then none else some (flags, !seen.isEmpty, c :: cs)
    else if seen.contains c then none
    else if c = '-' then Flags.read? flags false (c :: seen) cs
    else match flags.switch? c on with
      | some flags => Flags.read? flags on (c :: seen) cs
      | none => none

def skipVerbose (inComment : Bool) : List Char → (isBlank : Char → Bool) → List Char
  | [], _ => []
  | c :: cs, isBlank =>
    if inComment then skipVerbose (c != '\n') cs isBlank
    else if isBlank c then skipVerbose false cs isBlank
    else if c = '#' then skipVerbose true cs isBlank
    else c :: cs

end RequestTracing.Regex
