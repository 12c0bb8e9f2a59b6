import RequestTracing.Regex.CharClass
import RequestTracing.Unicode.Category
import RequestTracing.Unicode.Property
import RequestTracing.Unicode.Script
import RequestTracing.Unicode.ScriptExtension
import RequestTracing.Text.Pieces
/-!
The classes that a pattern names by a character property. Names compare without regard to letter
case, blanks, underscores and hyphens, and may start with `is`.
-/
namespace RequestTracing.Regex

open RequestTracing.Unicode

def looseName (name : List Char) : List Char :=
  let (prefixed, rest) := match name with
    | i :: s :: rest => if i.toLower = 'i' && s.toLower = 's' then (true, rest) else (false, name)
    | _ => (false, name)
  let letters := rest.filter fun c => c.toNat < 0x80 && c ≠ ' ' && c ≠ '_' && c ≠ '-'
  let letters := letters.map Char.toLower
  if prefixed && letters = ['c'] then ['i', 's', 'c'] else letters

def namesInclude (names : String) (wanted : List Char) : Bool :=
  (Text.pieces ' ' names.toList).any (fun name => looseName name == wanted)

def classOfRanges (r : Ranges) : CharClass :=
  ⟨r.contains, r.list.length, r.list.length, false⟩

def tableClass? (table : List (String × String)) (wanted : List Char) : Option CharClass :=
  (table.find? fun entry => namesInclude entry.1 wanted).map fun entry =>
    classOfRanges (.parse entry.2)

def categoryClass? (wanted : List Char) : Option CharClass :=
  let unassigned := (tableClass? categoryTable ['c', 'n']).getD .empty
  if wanted = "any".toList then some ⟨fun _ => true, 1, 0, false⟩
  else if wanted = "ascii".toList then some ⟨fun c => c.toNat < 0x80, 1, 0, true⟩
  else if wanted = "assigned".toList then some unassigned.compl
  else match categoryGroups.find? fun entry => namesInclude entry.1 wanted with
    | some (_, members) => some <| (members.filterMap fun name =>
        tableClass? categoryTable (looseName name.toList)).foldl .union .empty
    | none => tableClass? categoryTable wanted

/-- The class of a property given by one name. Three names that abbreviate a property as well as a
general category mean the category. -/
def propertyClass? (name : List Char) : Option CharClass :=
  let wanted := looseName name
  let category := ["cf", "sc", "lc"].any (·.toList == wanted)
  let property := if category then none else tableClass? propertyTable wanted
  property <|> categoryClass? wanted <|> tableClass? scriptTable wanted

def valueClass? (name value : List Char) : Option CharClass :=
  let wanted := looseName value
  let name := String.ofList (looseName name)
  if name = "gc" || name = "generalcategory" then categoryClass? wanted
  else if name = "sc" || name = "script" then tableClass? scriptTable wanted
  else if name = "scx" || name = "scriptextensions" then
    tableClass? scriptExtensionTable wanted <|> tableClass? scriptTable wanted
  else none

/-- Splits a text at the first place where `mark` stands in it. -/
def cutAt? (mark : List Char) : List Char → Option (List Char × List Char)
  | [] => none
  | c :: cs =>
    match Text.after? mark (c :: cs) with
    | some rest => some ([], rest)
    | none => (cutAt? mark cs).map fun (before, rest) => (c :: before, rest)

/-- The class of a property written as a name, or as a name and a value; and whether the relation
between the two was written as an inequality. -/
def namedClass? (name : List Char) : Option (CharClass × Bool) :=
  match cutAt? ['!', '='] name with
  | some (name, value) => (valueClass? name value).map (·, true)
  | none =>
    match Text.cut? ':' name <|> Text.cut? '=' name with
    | some (name, value) => (valueClass? name value).map (·, false)
    | none => (propertyClass? name).map (·, false)

end RequestTracing.Regex
