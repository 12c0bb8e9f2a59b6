import RequestTracing.Binary64
import RequestTracing.Dictionary
/-!
Attributes of spans and labels of metrics: values under names.
-/
namespace RequestTracing

/-- The value of an attribute. Whole numbers fit in 64 bits with a sign. -/
inductive AttributeValue where
  | bool (value : Bool)
  | int (value : Int)
  | float (value : Binary64)
  | text (value : String)
  | texts (values : List String)
  deriving DecidableEq

namespace AttributeValue

instance : Inhabited AttributeValue := ⟨.text ""⟩

/-- The value as text; a list stands in brackets. -/
def display : AttributeValue → String
  | .bool b => if b then "true" else "false"
  | .int n => Text.decimal n
  | .float x => x.text
  | .text s => s
  | .texts ss => "[" ++ ", ".intercalate ss ++ "]"

end AttributeValue

/-- Attributes by name, in ascending order of the names. -/
abbrev Attributes := Dictionary AttributeValue

def Attributes.project (attributes : Attributes) (names : List String) : Attributes :=
  names.foldl (fun kept name => kept.insertSome name (attributes.get? name)) .empty

def Attributes.display (attributes : Attributes) : String :=
  " ".intercalate (attributes.entries.map fun (name, value) => name ++ "=" ++ value.display)

end RequestTracing
