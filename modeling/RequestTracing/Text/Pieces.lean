/-!
Cutting a text at a separator character.
-/
namespace RequestTracing.Text

/-- The parts of a list between the separators: one more than there are separators. -/
def pieces (separator : Char) : List Char → List (List Char)
  | [] => [[]]
  | c :: cs =>
    if c = separator then
      [] :: pieces separator cs
    else
      match pieces separator cs with
      | [] => [[c]]
      | first :: rest => (c :: first) :: rest

def splitAt (separator : Char) (s : String) : List String :=
  (pieces separator s.toList).map String.ofList

/-- The parts of a list that separators end: an empty part after the last separator does not
count. -/
def terminated (separator : Char) (cs : List Char) : List (List Char) :=
  let parts := pieces separator cs
  if parts.getLast? = some [] then parts.dropLast else parts

/-- The parts before and after the first separator, if there is one. -/
def cut? (separator : Char) : List Char → Option (List Char × List Char)
  | [] => none
  | c :: cs =>
    if c = separator then
      some ([], cs)
    else
      (cut? separator cs).map fun (before, after) => (c :: before, after)

/-- What follows `start` in `cs`, if `cs` begins with it. -/
def after? : List Char → List Char → Option (List Char)
  | [], cs => some cs
  | _ :: _, [] => none
  | s :: start, c :: cs => if s = c then after? start cs else none

end RequestTracing.Text
