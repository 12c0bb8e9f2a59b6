import RequestTracing.Text.Hexadecimal
/-!
Texts in TOML: in quotes with escapes or in apostrophes without, on one line or on several.
-/
namespace RequestTracing.Toml

def isBlank (c : Char) : Bool :=
  c = ' ' || c = '\t'

def isPlain (c : Char) : Bool :=
  c = '\t' || (0x20 ≤ c.toNat && c.toNat ≠ 0x7F)

def afterNewline? : List Char → Option (List Char)
  | '\n' :: rest => some rest
  | '\r' :: '\n' :: rest => some rest
  | _ => none

def readCode? (digits : List Char) : Option Char :=
  (Text.readHexDigits? digits).bind fun n => if n.isValidChar then some (Char.ofNat n) else none

def escaped? : Char → Option Char
  | 'b' => some (Char.ofNat 8)
  | 't' => some '\t'
  | 'n' => some '\n'
  | 'f' => some (Char.ofNat 12)
  | 'r' => some '\r'
  | '"' => some '"'
  | '\\' => some '\\'
  | _ => none

def readEscape? : List Char → Option (Char × List Char)
  | 'u' :: rest => (readCode? (rest.take 4)).bind fun c =>
    if rest.length < 4 then none else some (c, rest.drop 4)
  | 'U' :: rest => (readCode? (rest.take 8)).bind fun c =>
    if rest.length < 8 then none else some (c, rest.drop 8)
  | e :: rest => (escaped? e).map (·, rest)
  | [] => none

def readQuoted? : (fuel : Nat) → List Char → Option (List Char × List Char)
  | 0, _ => none
  | _, [] => none
  | _, '"' :: rest => some ([], rest)
  | fuel + 1, '\\' :: rest => do
    let (c, rest) ← readEscape? rest
    let (cs, rest) ← readQuoted? fuel rest
    some (c :: cs, rest)
  | fuel + 1, c :: rest =>
    if isPlain c then (readQuoted? fuel rest).map fun (cs, rest) => (c :: cs, rest) else none

def readLiteral? : List Char → Option (List Char × List Char)
  | [] => none
  | '\'' :: rest => some ([], rest)
  | c :: rest =>
    if isPlain c then (readLiteral? rest).map fun (cs, rest) => (c :: cs, rest) else none

/-- What follows a closing mark of three, of which two more may belong to the text before it. -/
def closeLong (mark : Char) (rest : List Char) : List Char × List Char :=
  let extra := (rest.take 2).takeWhile (· = mark)
  (extra, rest.drop extra.length)

def skipLines : List Char → List Char
  | '\r' :: '\n' :: rest => skipLines rest
  | c :: rest => if isBlank c || c = '\n' then skipLines rest else c :: rest
  | [] => []

/-- Reads a text of several lines up to its closing quotes. A backslash at the end of a line joins
it with what follows. -/
def readLongQuoted? : (fuel : Nat) → List Char → Option (List Char × List Char)
  | 0, _ => none
  | _, [] => none
  | _, '"' :: '"' :: '"' :: rest => some (closeLong '"' rest)
  | fuel + 1, '\\' :: rest =>
    match afterNewline? (rest.dropWhile isBlank) with
    | some rest => readLongQuoted? fuel (skipLines rest)
    | none => do
      let (c, rest) ← readEscape? rest
      let (cs, rest) ← readLongQuoted? fuel rest
      some (c :: cs, rest)
  | fuel + 1, c :: rest =>
    match afterNewline? (c :: rest) with
    | some rest => (readLongQuoted? fuel rest).map fun (cs, rest) => ('\n' :: cs, rest)
    | none =>
      if isPlain c then (readLongQuoted? fuel rest).map fun (cs, rest) => (c :: cs, rest) else none

def readLongLiteral? : List Char → Option (List Char × List Char)
  | [] => none
  | '\'' :: '\'' :: '\'' :: rest => some (closeLong '\'' rest)
  | '\r' :: '\n' :: rest => (readLongLiteral? rest).map fun (cs, rest) => ('\n' :: cs, rest)
  | c :: rest =>
    if isPlain c || c = '\n' then
      (readLongLiteral? rest).map fun (cs, rest) => (c :: cs, rest)
    else none

def dropNewline (cs : List Char) : List Char :=
  (afterNewline? cs).getD cs

def readShortText? (cs : List Char) : Option (String × List Char) :=
  let text? := match cs with
    | '"' :: rest => readQuoted? (rest.length + 1) rest
    | '\'' :: rest => readLiteral? rest
    | _ => none
  text?.map fun (cs, rest) => (String.ofList cs, rest)

def readText? (cs : List Char) : Option (String × List Char) :=
  let long (text? : Option (List Char × List Char)) : Option (String × List Char) :=
    text?.map fun (cs, rest) => (String.ofList cs, rest)
  match cs with
  | '"' :: '"' :: '"' :: rest => long (readLongQuoted? (rest.length + 1) (dropNewline rest))
  | '\'' :: '\'' :: '\'' :: rest => long (readLongLiteral? (dropNewline rest))
  | _ => readShortText? cs

end RequestTracing.Toml
