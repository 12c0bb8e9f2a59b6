import RequestTracing.Text.Pieces
/-!
The list of vendor data that travels with a trace, as the text of a header. A list with any
malformed member counts as empty.
-/
namespace RequestTracing.TraceState

def isKeyStart (c : Char) : Bool :=
  c.isLower || c.isDigit

def isKeyChar (c : Char) : Bool :=
  isKeyStart c || ['_', '-', '*', '/'].contains c

/-- Whether all characters may stand in a key and the first one may start it. -/
def isKeyPart (cs : List Char) : Bool :=
  cs.all isKeyChar && cs.head?.all isKeyStart

/-- Whether a text is a key: one part, or a tenant and a short system name around an at sign. -/
def isKey (cs : List Char) : Bool :=
  cs.length ≤ 256 && match Text.cut? '@' cs with
    | none => isKeyPart cs
    | some (tenant, system) =>
      !tenant.isEmpty && isKeyPart tenant && system.length ≤ 13 && isKeyPart system

def isValue (cs : List Char) : Bool :=
  (String.ofList cs).utf8ByteSize ≤ 256 && !cs.contains ',' && !cs.contains '='

/-- Reads one member. Equal signs before the value are skipped. -/
def readMember? (cs : List Char) : Option (String × String) := do
  let (key, after) ← Text.cut? '=' cs
  let value := after.dropWhile (· = '=')
  if isKey key && isValue value then some (String.ofList key, String.ofList value) else none

def read (header : String) : List (String × String) :=
  ((Text.terminated ',' header.toList).mapM readMember?).getD []

def header (members : List (String × String)) : String :=
  ",".intercalate (members.map fun (key, value) => key ++ "=" ++ value)

end RequestTracing.TraceState
