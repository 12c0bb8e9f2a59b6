import RequestTracing.Application.Basic
import RequestTracing.Header.Capture
import RequestTracing.Proofs.Dictionary.Lookup
import RequestTracing.Proofs.Header.Spelling
import RequestTracing.Trace.Propagation
/-!
Headers whose values do not show. Capture is blind to the values of headers that are not captured or
are hidden: it comes to the same if they are blank.
-/
namespace RequestTracing

/-- Whether the values of a header show where it is captured. -/
def HeaderMatcher.shows (allowed hidden : HeaderMatcher) (name : String) : Bool :=
  allowed.isMatch name && !hidden.isMatch name

namespace HeaderSet

/-- A value where it shows, and otherwise a blank in its place. -/
def blankValue (shows : String → Bool) (name value : String) : String :=
  if shows (Text.lower name) then value else ""

def blankPairs (shows : String → Bool) (pairs : List (String × String)) :
    List (String × String) :=
  pairs.map fun (name, value) => (name, blankValue shows name value)

def blank (shows : String → Bool) (headers : HeaderSet) : HeaderSet :=
  headers.mapValues fun name values => if shows name then values else values.map fun _ => ""

variable (shows : String → Bool)

theorem append_blank (headers : HeaderSet) (name value : String) :
    (headers.append name value).blank shows =
      (headers.blank shows).append name (blankValue shows name value) := by
  unfold append blank values?
  rw [Dictionary.mapValues_insert, Dictionary.get?_mapValues]
  congr 1
  cases headers.get? (Text.lower name) <;> cases hshows : shows (Text.lower name) <;>
    simp [blankValue, hshows]

theorem ofPairs_blankPairs (pairs : List (String × String)) :
    ofPairs (blankPairs shows pairs) = (ofPairs pairs).blank shows := by
  have hfold (headers : HeaderSet) :
      (blankPairs shows pairs).foldl (fun headers (name, value) => headers.append name value)
          (headers.blank shows) =
        (pairs.foldl (fun headers (name, value) => headers.append name value) headers).blank
          shows := by
    unfold blankPairs
    induction pairs generalizing headers with
    | nil => rfl
    | cons pair pairs ih =>
      rw [List.map_cons, List.foldl_cons, List.foldl_cons, ← ih, append_blank]
  exact hfold .empty

end HeaderSet

variable (allowed hidden : HeaderMatcher) (key : String → String)

theorem captureHeaders_blank (headers : HeaderSet) :
    captureHeaders allowed hidden key (headers.blank (allowed.shows hidden)) =
      captureHeaders allowed hidden key headers := by
  unfold captureHeaders HeaderSet.blank Dictionary.mapValues
  simp only [List.filter_map, List.map_map]
  congr 1
  apply List.map_congr_left
  intro entry he
  have hallowed : allowed.isMatch entry.1 = true := by
    simpa using (List.mem_filter.mp he).2
  cases hhidden : hidden.isMatch entry.1 <;>
    simp [shownValue, HeaderMatcher.shows, hallowed, hhidden]

theorem captureHeaders_congr {pairs others : List (String × String)}
    (h : HeaderSet.blankPairs (allowed.shows hidden) pairs =
      HeaderSet.blankPairs (allowed.shows hidden) others) :
    captureHeaders allowed hidden key (.ofPairs pairs) =
      captureHeaders allowed hidden key (.ofPairs others) := by
  rw [← captureHeaders_blank, ← HeaderSet.ofPairs_blankPairs, h, HeaderSet.ofPairs_blankPairs,
    captureHeaders_blank]

namespace HeaderCapture

variable (capture : HeaderCapture)

def fixedVariables : List String :=
  [Variable.httpHost, Variable.httpUserAgent, Variable.ofHeader TraceContext.parentHeader,
    Variable.ofHeader TraceContext.stateHeader]

/-- Whether the value of a variable may show: it holds no header, or one that is read in any case,
or one whose values show where it is captured. -/
def sees (key : String) : Bool :=
  match Variable.header? key with
  | some name =>
    fixedVariables.contains key || capture.request.shows capture.hidden (foldName name)
  | none => true

/-- The variables of a request with a blank in place of each value that cannot show. -/
def blankEnviron (environ : Environ) : Environ :=
  environ.mapValues fun key value => if capture.sees key then value else ""

/-- The start of a response with a blank in place of each value of a header that cannot show. -/
def blankStart (start : ResponseStart) : ResponseStart :=
  { start with
    headers := HeaderSet.blankPairs (capture.response.shows capture.hidden) start.headers }

variable {capture}

/-- Requests that differ only in what cannot show have the same value of each variable that can. -/
theorem get?_of_blankEnviron {environ other : Environ}
    (h : capture.blankEnviron environ = capture.blankEnviron other) {key : String}
    (hkey : capture.sees key = true) : environ.get? key = other.get? key := by
  have hget := congrArg (Dictionary.get? · key) h
  simpa [blankEnviron, Dictionary.get?_mapValues, hkey] using hget

theorem requestAttributes_congr {environ other : Environ}
    (h : capture.blankEnviron environ = capture.blankEnviron other) :
    capture.requestAttributes environ = capture.requestAttributes other := by
  let shows := capture.request.shows capture.hidden
  let header (entry : String × String) : Option (String × String) :=
    (Variable.header? entry.1).map fun name =>
      (Text.exchange '_' '-' name,
        HeaderSet.blankValue shows (Text.exchange '_' '-' name) entry.2)
  have hpairs (environ : Environ) :
      HeaderSet.blankPairs shows (environ.headerVariables.map fun (name, value) =>
        (Text.exchange '_' '-' name, value)) = environ.entries.filterMap header := by
    unfold HeaderSet.blankPairs Environ.headerVariables
    rw [List.map_map, List.map_filterMap]
    congr 1
    funext entry
    simp [header, Function.comp_def]
  -- A blank in a variable that cannot show is a blank in the header that it holds.
  have hblank (environ : Environ) : (capture.blankEnviron environ).entries.filterMap header =
      environ.entries.filterMap header := by
    unfold blankEnviron Dictionary.mapValues
    rw [List.filterMap_map]
    congr 1
    funext entry
    cases hname : Variable.header? entry.1 with
    | none => simp [header, hname]
    | some name =>
      cases hshows : shows (foldName name) with
      | true => simp [header, hname, sees, shows] at hshows ⊢; simp [hshows]
      | false => simp [header, hname, HeaderSet.blankValue, lower_exchange, hshows]
  apply captureHeaders_congr
  rw [hpairs, hpairs, ← hblank environ, ← hblank other, h]

theorem responseAttributes_congr {start other : ResponseStart}
    (h : capture.blankStart start = capture.blankStart other) :
    capture.responseAttributes start.headers = capture.responseAttributes other.headers :=
  captureHeaders_congr _ _ _ (congrArg ResponseStart.headers h)

end HeaderCapture

end RequestTracing
