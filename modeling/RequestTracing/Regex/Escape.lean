import RequestTracing.Regex.Flags
import RequestTracing.Regex.Library
import RequestTracing.Text.Pieces
import RequestTracing.Unicode.Ranges
/-!
What a backslash in a pattern introduces: a character, a class or a condition on the place.
-/
namespace RequestTracing.Regex

/-- A single unit of a pattern. -/
inductive Primitive where
  /-- A character; `byte` if it was written as a byte with two hexadecimal digits. -/
  | literal (c : Char) (byte : Bool)
  | look (condition : Look)
  | cls (members : CharClass)

namespace Flags

/-- What remains after blanks and comments, if the pattern may have them. -/
def skip (flags : Flags) (cs : List Char) : List Char :=
  if flags.verbose then skipVerbose false cs Text.isBlank else cs

/-- The character ahead while a class is read: blanks and the sign of a comment are passed over, but
not what the comment says. -/
def peek? (flags : Flags) (cs : List Char) : Option Char :=
  if flags.verbose then
    match cs.dropWhile Text.isBlank with
    | '#' :: cs => (cs.dropWhile Text.isBlank).head?
    | cs => cs.head?
  else cs.head?

def word (flags : Flags) : Char → Bool :=
  if flags.unicode then Unicode.isWord else CharClass.asciiWord.test

/-- The class closed under case if the flags say so. -/
def close (flags : Flags) (cls : CharClass) : CharClass :=
  if flags.ignoreCase then
    if flags.unicode then cls.closeCase else cls.closeAsciiCase
  else cls

/-- The complement of a class. It holds more than ASCII characters, so it needs all scripts. -/
def compl? (flags : Flags) (negated : Bool) (cls : CharClass) : Option CharClass :=
  if negated then
    if flags.unicode then some cls.compl else none
  else some cls

end Flags

/-- The character with a code point, if there is one. -/
def charOfCode? (n : Nat) : Option Char :=
  if n.isValidChar then some (Char.ofNat n) else none

def readHexDigits (skip : List Char → List Char) :
    Nat → Nat → List Char → Option (Nat × List Char)
  | 0, n, cs => some (n, cs)
  | count + 1, n, cs =>
    match cs with
    | [] => none
    | c :: cs => (Unicode.hexDigit? c).bind fun d => readHexDigits skip count (16 * n + d) (skip cs)

def readHexBrace (skip : List Char → List Char) :
    Nat → Option Nat → List Char → Option (Nat × List Char)
  | 0, _, _ => none
  | fuel + 1, n, cs =>
    match cs with
    | [] => none
    | '}' :: cs => n.map fun n => (n, skip cs)
    | c :: cs => (Unicode.hexDigit? c).bind fun d =>
      readHexBrace skip fuel (some (16 * n.getD 0 + d)) (skip cs)

/-- Reads the code point after `x`, `u` or `U`, whose plain form has `width` digits. -/
def readCode? (flags : Flags) (width : Nat) (cs : List Char) : Option (Primitive × List Char) :=
  match flags.skip cs with
  | '{' :: cs => do
    let (n, rest) ← readHexBrace flags.skip (cs.length + 1) none (flags.skip cs)
    let c ← charOfCode? n
    some (.literal c false, rest)
  | cs => do
    let (n, rest) ← readHexDigits flags.skip width 0 cs
    let c ← charOfCode? n
    some (.literal c (width = 2), rest)

def readName (skip : List Char → List Char) :
    Nat → List Char → List Char → Option (List Char × List Char)
  | 0, _, _ => none
  | fuel + 1, name, cs =>
    match cs with
    | [] => none
    | '}' :: cs => some (name.reverse, cs)
    | c :: cs => readName skip fuel (c :: name) (skip cs)

def readProperty? (library : Library) (flags : Flags) (negated : Bool) (cs : List Char) :
    Option (Primitive × List Char) := do
  let (name, rest) ← match flags.skip cs with
    | [] => none
    | '{' :: cs => readName flags.skip (cs.length + 1) [] (flags.skip cs)
    | c :: cs => if c = '\\' then none else some ([c], flags.skip cs)
  if !flags.unicode then none
  let (cls, unequal) ← library.property? name
  let cls ← flags.compl? (negated != unequal) (flags.close cls)
  some (.cls cls, rest)

def wordLook? (flags : Flags) (name : String) : Option Look :=
  match name with
  | "start" => some (.word flags.word fun before after => !before && after)
  | "end" => some (.word flags.word fun before after => before && !after)
  | "start-half" => some (.word flags.word fun before _ => !before)
  | "end-half" => some (.word flags.word fun _ after => !after)
  | _ => none

def readWordName (skip : List Char → List Char) :
    Nat → List Char → List Char → List Char × List Char
  | 0, name, cs => (name.reverse, cs)
  | fuel + 1, name, cs =>
    match cs with
    | [] => (name.reverse, [])
    | c :: rest =>
      if c.isAlpha || c = '-' then readWordName skip fuel (c :: name) (skip rest)
      else (name.reverse, cs)

/-- Reads what follows `b`: a word condition in braces, or nothing. A brace that no name follows
belongs to a repetition. -/
def readBoundary? (flags : Flags) (cs : List Char) : Option (Primitive × List Char) :=
  let plain : Primitive := .look (.word flags.word fun before after => before != after)
  match cs with
  | '{' :: inner =>
    match flags.skip inner with
    | [] => none
    | c :: rest =>
      if c.isAlpha || c = '-' then
        match readWordName flags.skip (rest.length + 1) [] (c :: rest) with
        | (name, '}' :: rest) =>
          (wordLook? flags (String.ofList name)).map fun look => (.look look, rest)
        | _ => none
      else some (plain, cs)
  | _ => some (plain, cs)

/-- Whether a character stands for itself after a backslash: all of ASCII but letters, digits and
angle brackets. -/
def isEscapable (c : Char) : Bool :=
  c.toNat < 0x80 && !c.isAlphanum && c ≠ '<' && c ≠ '>'

def readEscape? (library : Library) (flags : Flags) : List Char → Option (Primitive × List Char)
  | [] => none
  | c :: cs =>
    let literal (c : Char) : Option (Primitive × List Char) := some (.literal c false, cs)
    let cls (all ascii : CharClass) (negated : Bool) : Option (Primitive × List Char) :=
      (flags.compl? negated (if flags.unicode then all else ascii)).map fun cls => (.cls cls, cs)
    match c with
    | 'x' => readCode? flags 2 cs
    | 'u' => readCode? flags 4 cs
    | 'U' => readCode? flags 8 cs
    | 'p' => readProperty? library flags false cs
    | 'P' => readProperty? library flags true cs
    | 'd' => cls .digit .asciiDigit false
    | 'D' => cls .digit .asciiDigit true
    | 's' => cls .blank .asciiBlank false
    | 'S' => cls .blank .asciiBlank true
    | 'w' => cls .word .asciiWord false
    | 'W' => cls .word .asciiWord true
    | 'a' => literal '\x07'
    | 'f' => literal '\x0c'
    | 't' => literal '\t'
    | 'n' => literal '\n'
    | 'r' => literal '\r'
    | 'v' => literal '\x0b'
    | 'A' => some (.look .textStart, cs)
    | 'z' => some (.look .textEnd, cs)
    | 'b' => readBoundary? flags cs
    | 'B' => some (.look (.word flags.word fun before after => before == after), cs)
    | '<' => some (.look (.word flags.word fun before after => !before && after), cs)
    | '>' => some (.look (.word flags.word fun before after => before && !after), cs)
    | _ => if isEscapable c then literal c else none

end RequestTracing.Regex
