/-!
Letter case and word separators. Only the letters A to Z have two cases here; all other characters
stay as they are.
-/
namespace RequestTracing.Text

def lower (s : String) : String :=
  String.ofList (s.toList.map Char.toLower)

def upper (s : String) : String :=
  String.ofList (s.toList.map Char.toUpper)

def exchange (old new : Char) (s : String) : String :=
  String.ofList (s.toList.map fun c => if c = old then new else c)

end RequestTracing.Text
