import RequestTracing.Toml.Value
/-!
Reading TOML documents: lines with keys and values, headers of tables, and comments.
-/
namespace RequestTracing.Toml

def depthLimit : Nat := 80

def isBareKeyChar (c : Char) : Bool :=
  c.isAlphanum || c = '_' || c = '-'

def readKeyPart? (cs : List Char) : Option (String × List Char) :=
  let bare := cs.takeWhile isBareKeyChar
  if bare.isEmpty then readShortText? cs else some (String.ofList bare, cs.drop bare.length)

def readKeyParts? : (fuel : Nat) → List Char → Option (List String × List Char)
  | 0, _ => none
  | fuel + 1, cs => do
    let (part, rest) ← readKeyPart? (cs.dropWhile isBlank)
    match rest.dropWhile isBlank with
    | '.' :: rest =>
      let (parts, rest) ← readKeyParts? fuel rest
      some (part :: parts, rest)
    | rest => some ([part], rest)

def readKey? (cs : List Char) : Option (List String × List Char) :=
  (readKeyParts? (cs.length + 1) cs).filter (·.1.length < depthLimit)

def dropComment? : List Char → Option (List Char)
  | '#' :: rest => some (rest.dropWhile isPlain)
  | cs => some cs

/-- Skips white space, ends of lines and comments. Each comment ends with its line. -/
def skipFiller? : (fuel : Nat) → List Char → Option (List Char)
  | 0, _ => none
  | fuel + 1, cs =>
    let cs := cs.dropWhile isBlank
    match cs with
    | '#' :: rest => (afterNewline? (rest.dropWhile isPlain)).bind (skipFiller? fuel)
    | '\n' :: _ | '\r' :: _ => (afterNewline? cs).bind (skipFiller? fuel)
    | _ => some cs

mutual

def readValue? : (fuel depth : Nat) → List Char → Option (Toml × List Char)
  | 0, _, _ => none
  | fuel + 1, depth, cs =>
    match cs with
    | '"' :: _ | '\'' :: _ => (readText? cs).map fun (s, rest) => (.text s, rest)
    | '[' :: rest =>
      if depth + 1 < depthLimit then
        (readItems? fuel (depth + 1) rest).map fun (items, rest) => (.array items, rest)
      else none
    | '\x7b' :: rest =>
      if depth + 1 < depthLimit then
        match rest.dropWhile isBlank with
        | '\x7d' :: rest => some (.table .inline [], rest)
        | rest => (readInline? fuel (depth + 1) [] rest).map fun (entries, rest) =>
          (.table .inline entries, rest)
      else none
    | _ => (readScalar? cs).map fun (s, rest) => (.scalar s, rest)

def readItems? : (fuel depth : Nat) → List Char → Option (List Toml × List Char)
  | 0, _, _ => none
  | fuel + 1, depth, cs => do
    match ← skipFiller? (cs.length + 1) cs with
    | ']' :: rest => some ([], rest)
    | cs =>
      let (item, rest) ← readValue? fuel depth cs
      match ← skipFiller? (rest.length + 1) rest with
      | ']' :: rest => some ([item], rest)
      | ',' :: rest =>
        let (items, rest) ← readItems? fuel depth rest
        some (item :: items, rest)
      | _ => none

def readInline? : (fuel depth : Nat) → List (String × Toml) → List Char →
    Option (List (String × Toml) × List Char)
  | 0, _, _, _ => none
  | fuel + 1, depth, entries, cs => do
    let (key, rest) ← readKey? cs
    let (value, rest) ← readValue? fuel depth ((← Text.after? ['='] rest).dropWhile isBlank)
    let entries ← addDotted? value key entries
    match rest.dropWhile isBlank with
    | '\x7d' :: rest => some (entries, rest)
    | ',' :: rest => readInline? fuel depth entries rest
    | _ => none

end

/-- What follows the end of a line that may still have white space and a comment. -/
def afterLine? (cs : List Char) : Option (List Char) := do
  match ← dropComment? (cs.dropWhile isBlank) with
  | [] => some []
  | cs => afterNewline? cs

/-- Changes the table that a header names, by its last part. -/
def openHeader? (make : String → List (String × Toml) → Option (List (String × Toml)))
    (path : List String) (entries : List (String × Toml)) : Option (List (String × Toml)) := do
  changeAt? (make (← path.getLast?)) path.dropLast entries

/-- Reads the lines of a document. The path is that of the last header. -/
def readLines? : (fuel : Nat) → (path : List String) → List (String × Toml) → List Char →
    Option (List (String × Toml))
  | 0, _, _, _ => none
  | fuel + 1, path, entries, cs => do
    match cs.dropWhile isBlank with
    | [] => some entries
    | '[' :: '[' :: cs =>
      let (path, rest) ← readKey? cs
      let entries ← openHeader? openElement? path entries
      readLines? fuel path entries (← afterLine? (← Text.after? [']', ']'] rest))
    | '[' :: cs =>
      let (path, rest) ← readKey? cs
      let entries ← openHeader? openTable? path entries
      readLines? fuel path entries (← afterLine? (← Text.after? [']'] rest))
    | cs =>
      match afterLine? cs with
      | some rest => readLines? fuel path entries rest
      | none =>
        let (key, rest) ← readKey? cs
        let cs := (← Text.after? ['='] rest).dropWhile isBlank
        let (value, rest) ← readValue? (2 * cs.length + 2) 0 cs
        let entries ← changeAt? (addDotted? value key) path entries
        readLines? fuel path entries (← afterLine? rest)

/-- Reads a document, which may start with a byte order mark. -/
def read? (document : String) : Option (List (String × Toml)) :=
  let cs := match document.toList with
    | '\uFEFF' :: cs => cs
    | cs => cs
  readLines? (cs.length + 1) [] [] cs

end RequestTracing.Toml
