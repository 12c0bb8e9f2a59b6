import RequestTracing.Dictionary
import RequestTracing.Text.AsciiCase
/-!
Headers grouped by name. Names are kept in lower case, and the values of a name in the order in
which they were added.
-/
namespace RequestTracing

/-- The values of each header, by the name in lower case. -/
abbrev HeaderSet := Dictionary (List String)

namespace HeaderSet

/-- The values of a name, in whatever case it is given. -/
def values? (headers : HeaderSet) (name : String) : Option (List String) :=
  headers.get? (Text.lower name)

def append (headers : HeaderSet) (name value : String) : HeaderSet :=
  headers.insert (Text.lower name) (((headers.values? name).getD []) ++ [value])

def ofPairs (pairs : List (String × String)) : HeaderSet :=
  pairs.foldl (fun headers (name, value) => headers.append name value) .empty

end HeaderSet

end RequestTracing
