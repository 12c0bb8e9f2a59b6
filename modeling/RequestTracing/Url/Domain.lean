import RequestTracing.Text.Pieces
import RequestTracing.Unicode.Category
import RequestTracing.Unicode.Composition
import RequestTracing.Unicode.Direction
import RequestTracing.Unicode.DomainMapping
import RequestTracing.Unicode.Joining
import RequestTracing.Url.Host
import RequestTracing.Url.Punycode
/-!
Domain names in their ASCII form, in which a label with other characters is written in digits after
`xn--`.
-/
namespace RequestTracing.Url

open Unicode (Direction Joining)

/-- The start of a label that stands for one with other characters than ASCII. -/
def encodedStart : List Char := ['x', 'n', '-', '-']

def isAscii (cs : List Char) : Bool :=
  cs.all (·.toNat < 0x80)

/-! ## Joiners -/

def viramaClass : Nat := 9

/-- Whether a letter before joins the one after it across transparent ones; `before` stands in
reverse. -/
def joinsAcross (before after : List Char) : Bool :=
  let next (cs : List Char) : Joining :=
    ((cs.map Unicode.joining).find? (· ≠ .transparent)).getD .apart
  [Joining.dual, .left].contains (next before) && [Joining.dual, .right].contains (next after)

/-- Whether every joiner and every non-joiner stands where it changes the look of letters; `before`
holds in reverse what stands in front. -/
def joinersInPlace (before : List Char) : List Char → Bool
  | [] => true
  | c :: after =>
    let afterVirama := before.head?.any (Unicode.combiningClass · = viramaClass)
    let inPlace :=
      if c = '\u200c' then afterVirama || joinsAcross before after
      else if c = '\u200d' then afterVirama
      else true
    inPlace && joinersInPlace (c :: before) after

/-! ## Direction -/

def hasRightToLeft (label : List Char) : Bool :=
  label.any fun c =>
    [Direction.rightToLeft, .arabicLetter, .arabicNumber].contains (Unicode.direction c)

def keepsDirection (label : List Char) : Bool :=
  let directions := label.map Unicode.direction
  let last := directions.reverse.find? (· ≠ .nonspacingMark)
  let neutral : List Direction := [.europeanNumber, .europeanSeparator, .commonSeparator,
    .europeanTerminator, .otherNeutral, .boundaryNeutral, .nonspacingMark]
  match directions.head? with
  | none => true
  | some .leftToRight =>
    directions.all (fun d => d = .leftToRight || neutral.contains d) &&
      last.any fun d => d = .leftToRight || d = .europeanNumber
  | some .rightToLeft | some .arabicLetter =>
    directions.all (fun d => d = .rightToLeft || d = .arabicLetter || d = .arabicNumber ||
        neutral.contains d) &&
      last.any (fun d => d = .rightToLeft || d = .arabicLetter || d = .arabicNumber ||
        d = .europeanNumber) &&
      !(directions.contains .europeanNumber && directions.contains .arabicNumber)
  | some _ => false

/-! ## Labels -/

/-- Whether a text may be a label in its own characters: mapping and composing leave it alone, it is
one label and not the written form of another, and it neither starts with a mark nor has joiners in
wrong places. -/
def isLabel (label : List Char) : Bool :=
  label.all (fun c => Unicode.isValidInDomain c && c ≠ '.') && Unicode.composed label = label &&
    (Text.after? encodedStart label).isNone &&
    (isAscii label || (!label.head?.any Unicode.isMark && joinersInPlace [] label))

/-- The label that a label in digits stands for. It has to need the digits. -/
def decodeLabel? (digits : List Char) : Option (List Char) :=
  (Punycode.decode? digits).filter (!isAscii ·)

def readLabel? (label : List Char) : Option (List Char) :=
  let own := match Text.after? encodedStart label with
    | some digits => decodeLabel? digits
    | none => some label
  own.filter isLabel

def writeLabel? (label : List Char) : Option (List Char) :=
  if isAscii label then some label else (Punycode.encode? label).map (encodedStart ++ ·)

/-! ## Names -/

def readLabels? (cs : List Char) : Option (List (List Char)) := do
  let mapped ← cs.mapM Unicode.mapInDomain?
  let labels ← (Text.pieces '.' (Unicode.composed mapped.flatten)).mapM readLabel?
  if labels.any hasRightToLeft && !labels.all keepsDirection then none
  else some labels

/-- The ASCII form of a domain name, if no character is forbidden. -/
def domainToAscii? (cs : List Char) : Option (List Char) := do
  let labels ← readLabels? cs
  let written ← labels.mapM writeLabel?
  let domain := ['.'].intercalate written
  if domain.any fun c => isForbiddenInDomain c || 0x80 ≤ c.toNat then none else some domain

end RequestTracing.Url
