import RequestTracing.Environ
/-!
Headers as carriers of trace context: it is read from those of a request and added to those of a
response.
-/
namespace RequestTracing.Carrier

def keys (environ : Environ) : List String :=
  environ.headerVariables.map fun (name, _) => Text.exchange '_' '-' (Text.lower name)

def get? (environ : Environ) (name : String) : Option String :=
  environ.get? (Variable.ofHeader name)

/-- The values of the header of a name; a variable holds all of them in one. -/
def values? (environ : Environ) (name : String) : Option (List String) :=
  (get? environ name).map fun value => [value]

def listing (environ : Environ) : List (String × Option String) :=
  ((keys environ).mergeSort (· ≤ ·)).map fun name => (name, get? environ name)

def set (headers : List (String × String)) (name value : String) : List (String × String) :=
  headers ++ [(name, value)]

end RequestTracing.Carrier
