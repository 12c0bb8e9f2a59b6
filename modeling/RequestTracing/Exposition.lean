import RequestTracing.Event
import RequestTracing.Text.AsciiCase
/-!
The text that shows the metrics of a process. Of the durations of requests only their number is
shown.
-/
namespace RequestTracing.Exposition

/-- The name of a metric or of a label, in which dots are not allowed. -/
def nameText (name : String) : String :=
  Text.exchange '.' '_' name

/-- The value of a label, in which quotes, backslashes and the ends of lines are escaped. A
backslash that escapes a backslash or a quote already is kept as it is. -/
def escapeLabel : List Char → List Char
  | '\\' :: '\\' :: cs => '\\' :: '\\' :: escapeLabel cs
  | '\\' :: '"' :: cs => '\\' :: '"' :: escapeLabel cs
  | '\\' :: cs => '\\' :: '\\' :: escapeLabel cs
  | '"' :: cs => '\\' :: '"' :: escapeLabel cs
  | '\n' :: cs => '\\' :: 'n' :: escapeLabel cs
  | c :: cs => c :: escapeLabel cs
  | [] => []

def labelText (label : String × String) : String :=
  nameText label.1 ++ "=\"" ++ String.ofList (escapeLabel label.2.toList) ++ "\""

def sampleLine (name : String) (labels : List (String × String)) (value : Int) : String :=
  let labels := if labels.isEmpty then ""
    else "\x7b" ++ ",".intercalate (labels.map labelText) ++ "\x7d"
  nameText name ++ labels ++ " " ++ Text.decimal value

def accumulate (name : String) (labels : List (String × String)) (delta : Int) :
    List ((String × List (String × String)) × Int) →
      List ((String × List (String × String)) × Int)
  | [] => [((name, labels), delta)]
  | (key, value) :: rest =>
    if key = (name, labels) then (key, value + delta) :: rest
    else (key, value) :: accumulate name labels delta rest

/-- The values of the gauges and the numbers of values in the histograms after some events. -/
def samples (events : List Event) : List ((String × List (String × String)) × Int) :=
  events.foldl (fun samples event =>
    match event with
    | .gauge name labels delta => accumulate name labels delta samples
    | .histogram name labels _ => accumulate (name ++ "_count") labels 1 samples
    | _ => samples) []

/-- What is shown of a metric before its values. Only metrics with values are shown. -/
def headerLines (events : List Event) (instrument : Instrument) : List String :=
  let name := nameText instrument.name
  let isUsed := events.any fun
    | .gauge n _ _ => n = instrument.name
    | .histogram n _ _ => n = instrument.name
    | _ => false
  if isUsed then
    ["# HELP " ++ name ++ " " ++ instrument.description,
      "# TYPE " ++ name ++ (if instrument.isGauge then " gauge" else " summary")]
  else []

def instruments (events : List Event) : List Instrument :=
  (events.filterMap fun
    | .describe instrument => some instrument
    | _ => none).eraseDups

def lines (events : List Event) : List String :=
  ((instruments events).flatMap (headerLines events) ++
    (samples events).map fun ((name, labels), value) => sampleLine name labels value).mergeSort
    (· ≤ ·)

end RequestTracing.Exposition
