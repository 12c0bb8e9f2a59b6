import RequestTracing.Toml.Scalar
import RequestTracing.Toml.Text
/-!
Values in TOML, and the rules by which keys with dots build tables within tables.
-/
namespace RequestTracing

namespace Toml

/-- How a table came to be, which decides what may be added to it. -/
inductive Origin where
  /-- By a header of its own, or as an element of an array of tables. -/
  | header
  | implied
  | dotted
  /-- In braces; nothing may be added. -/
  | inline
  deriving DecidableEq, Repr

end Toml

inductive Toml where
  | text (value : String)
  | scalar (value : Toml.Scalar)
  | array (items : List Toml)
  | table (origin : Toml.Origin) (entries : List (String × Toml))
  | tables (elements : List (List (String × Toml)))

namespace Toml

instance : Inhabited Toml := ⟨.array []⟩

def lookup? (key : String) (entries : List (String × Toml)) : Option Toml :=
  (entries.find? fun entry => entry.1 == key).map (·.2)

def put (key : String) (value : Toml) (entries : List (String × Toml)) : List (String × Toml) :=
  if entries.any (·.1 == key) then
    entries.map fun entry => if entry.1 == key then (key, value) else entry
  else entries ++ [(key, value)]

def changeLast? (change : List (String × Toml) → Option (List (String × Toml)))
    (elements : List (List (String × Toml))) : Option Toml := do
  let last ← elements.getLast?
  some (.tables (elements.dropLast ++ [← change last]))

/-- Adds a value under a key with dots. Tables on the way are made where they lack; the last one
must have been made in this way. -/
def addDotted? (value : Toml) : List String → List (String × Toml) → Option (List (String × Toml))
  | [], _ => none
  | [key], entries => if (lookup? key entries).isSome then none else some (put key value entries)
  | key :: path, entries => do
    let changed ← match lookup? key entries with
      | none => (addDotted? value path []).map (.table .dotted)
      | some (.table .dotted below) => (addDotted? value path below).map (.table .dotted)
      | some (.table .implied below) =>
        if path.length = 1 then none else (addDotted? value path below).map (.table .implied)
      | some (.tables elements) =>
        if path.length = 1 then none else changeLast? (addDotted? value path) elements
      | _ => none
    some (put key changed entries)

/-- Changes the table that a path of headers leads to. Tables on the way are made where they lack;
an array of tables stands for its last element. -/
def changeAt? (change : List (String × Toml) → Option (List (String × Toml))) :
    List String → List (String × Toml) → Option (List (String × Toml))
  | [], entries => change entries
  | key :: path, entries => do
    let changed ← match lookup? key entries with
      | none => (changeAt? change path []).map (.table .implied)
      | some (.table .inline _) => none
      | some (.table origin below) => (changeAt? change path below).map (.table origin)
      | some (.tables elements) => changeLast? (changeAt? change path) elements
      | _ => none
    some (put key changed entries)

/-- Makes a table for a header. A table that was only implied so far becomes its own. -/
def openTable? (key : String) (entries : List (String × Toml)) :
    Option (List (String × Toml)) :=
  match lookup? key entries with
  | none => some (put key (.table .header []) entries)
  | some (.table .implied below) => some (put key (.table .header below) entries)
  | _ => none

def openElement? (key : String) (entries : List (String × Toml)) :
    Option (List (String × Toml)) :=
  match lookup? key entries with
  | none => some (put key (.tables [[]]) entries)
  | some (.tables elements) => some (put key (.tables (elements ++ [[]])) entries)
  | _ => none

end Toml

end RequestTracing
