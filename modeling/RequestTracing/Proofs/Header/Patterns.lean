import RequestTracing.Header.Warning
import RequestTracing.Proofs.Header.Hiding
/-!
What is captured under configurations that differ in their patterns. Which names a list of patterns
matches depends on its usable members only; more patterns that hide put the mark in place of values,
and more patterns that allow add attributes.
-/
namespace RequestTracing

namespace HeaderPattern

def isBlank (written : String) : Bool :=
  Text.trim written == ""

section Compile

variable (compile : Regex.Compiler) (written : String)

/-- Whether a written pattern has a special character and is no regular expression. -/
def isMalformed : Bool :=
  isExpression (Text.trim written) && !(compile (Text.trim written)).isOk

def complaint : String :=
  match compile (Text.trim written) with
  | .error error => error
  | .ok _ => ""

def isUsable : Bool :=
  !isBlank written && !isMalformed compile written

theorem read_cases :
    (read written compile = .blank ∧ isBlank written = true ∧
        isMalformed compile written = false) ∨
      (read written compile = .malformed (Text.trim written) (complaint compile written) ∧
        isMalformed compile written = true) ∨
      ∃ p, read written compile = .pattern p ∧ isBlank written = false ∧
        isMalformed compile written = false := by
  unfold read isBlank isMalformed complaint
  by_cases hblank : Text.trim written = ""
  · simp [hblank, isExpression]
  · by_cases hexpression : isExpression (Text.trim written) = true
    · cases hcompiled : compile (Text.trim written) with
      | ok test => simp [hblank, hexpression, hcompiled, Except.isOk, Except.toBool]
      | error error => simp [hblank, hexpression, hcompiled, Except.isOk, Except.toBool]
    · simp [hblank, hexpression]

/-- A written pattern is used just if it is neither blank nor malformed. -/
theorem isSome_pattern?_read :
    (read written compile).pattern?.isSome = isUsable compile written := by
  unfold isUsable
  rcases read_cases compile written with
    ⟨hread, hblank, _⟩ | ⟨hread, hmalformed⟩ | ⟨p, hread, hneither⟩
  · simp [hread, hblank, Reading.pattern?]
  · simp [hread, hmalformed, Reading.pattern?]
  · simp [hread, hneither, Reading.pattern?]

theorem malformed?_read :
    (read written compile).malformed? =
      if isMalformed compile written then some (Text.trim written, complaint compile written)
      else none := by
  rcases read_cases compile written with
    ⟨hread, _, hwell⟩ | ⟨hread, hmalformed⟩ | ⟨p, hread, _, hwell⟩
  · simp [hread, hwell, Reading.malformed?]
  · simp [hread, hmalformed, Reading.malformed?]
  · simp [hread, hwell, Reading.malformed?]

end Compile

theorem isMalformed_eq_false_of_read_eq {compile : Regex.Compiler} {written : String}
    {p : HeaderPattern} (h : read written compile = .pattern p) :
    isMalformed compile written = false := by
  rcases read_cases compile written with ⟨hread, _, _⟩ | ⟨hread, _⟩ | ⟨_, _, _, hwell⟩
  · rw [hread] at h
    cases h
  · rw [hread] at h
    cases h
  · exact hwell

end HeaderPattern

/-- Whether lists have the same members, in whatever order and however often. -/
def SameMembers (written others : List String) : Prop :=
  ∀ w, w ∈ others ↔ w ∈ written

/-- Whether lists are the same apart from blank and malformed patterns. -/
def SameUsable (compile : Regex.Compiler) (written others : List String) : Prop :=
  others.filter (HeaderPattern.isUsable compile) = written.filter (HeaderPattern.isUsable compile)

instance (compile : Regex.Compiler) (written others : List String) :
    Decidable (SameUsable compile written others) :=
  inferInstanceAs (Decidable (_ = _))

namespace HeaderMatcher

open HeaderPattern

variable {compile : Regex.Compiler} {written others : List String} {name : String}

theorem ofPatterns_filter_isUsable (compile : Regex.Compiler) (written : List String) :
    ofPatterns (written.filter (isUsable compile)) compile = ofPatterns written compile := by
  have hread (w : String) : (if isUsable compile w then (read w compile).pattern? else none) =
      (read w compile).pattern? := by
    rw [← isSome_pattern?_read]
    cases (read w compile).pattern? <;> rfl
  unfold ofPatterns
  rw [List.filterMap_filter]
  simp only [hread]

/-- Each malformed pattern is warned about once, in the order of the list. -/
theorem warnings_eq_map (compile : Regex.Compiler) (written : List String) :
    warnings written compile = (written.filter (isMalformed compile)).map fun w =>
      .log (malformedPatternRecord (Text.trim w) (complaint compile w)) := by
  unfold warnings malformed
  induction written with
  | nil => rfl
  | cons w written ih =>
    rw [List.filterMap_cons, malformed?_read, List.filter_cons]
    cases isMalformed compile w with
    | true => simp [ih]
    | false => simp [ih]

theorem isMatch_ofPatterns (compile : Regex.Compiler) (written : List String) (name : String) :
    (ofPatterns written compile).isMatch name = true ↔
      ∃ w ∈ written, ∃ p, (read w compile).pattern? = some p ∧ p.isMatch name = true := by
  unfold isMatch ofPatterns
  simp only [List.any_eq_true, List.mem_filterMap]
  constructor
  · rintro ⟨p, ⟨w, hw, hread⟩, hmatch⟩
    exact ⟨w, hw, p, hread, hmatch⟩
  · rintro ⟨w, hw, p, hread, hmatch⟩
    exact ⟨p, ⟨w, hw, hread⟩, hmatch⟩

theorem isMatch_of_subset (h : written ⊆ others)
    (hname : (ofPatterns written compile).isMatch name = true) :
    (ofPatterns others compile).isMatch name = true := by
  obtain ⟨w, hw, hmatch⟩ := (isMatch_ofPatterns compile written name).mp hname
  exact (isMatch_ofPatterns compile others name).mpr ⟨w, h hw, hmatch⟩

theorem isMatch_of_sameMembers (h : SameMembers written others) (name : String) :
    (ofPatterns others compile).isMatch name = (ofPatterns written compile).isMatch name := by
  rw [Bool.eq_iff_iff]
  constructor
  · exact isMatch_of_subset fun w => (h w).mp
  · exact isMatch_of_subset fun w => (h w).mpr

theorem isMatch_of_sameUsable (h : SameUsable compile written others) (name : String) :
    (ofPatterns others compile).isMatch name = (ofPatterns written compile).isMatch name := by
  rw [← ofPatterns_filter_isUsable compile others, h, ofPatterns_filter_isUsable]

end HeaderMatcher

/-- Whether attributes differ only in that the mark stands in place of some values. -/
structure Attributes.IsMarking (attributes marked : Attributes) : Prop where
  keys : marked.keys = attributes.keys
  values : ∀ key value, attributes.get? key = some value →
    marked.get? key = some value ∨ marked.get? key = some (.texts [redacted])

section Capture

variable {allowed hidden more : HeaderMatcher} (key : String → String) (headers : HeaderSet)

theorem captureHeaders_of_isMatch {others : HeaderMatcher}
    (hallowed : ∀ name, others.isMatch name = allowed.isMatch name)
    (hhidden : ∀ name, more.isMatch name = hidden.isMatch name) :
    captureHeaders others more key headers = captureHeaders allowed hidden key headers := by
  unfold captureHeaders shownValue
  simp only [hallowed, hhidden]

theorem isMarking_captureHeaders (allowed : HeaderMatcher)
    (h : ∀ name, hidden.isMatch name = true → more.isMatch name = true) :
    Attributes.IsMarking (captureHeaders allowed hidden key headers)
      (captureHeaders allowed more key headers) := by
  constructor
  · apply Dictionary.keys_congr
    intro label
    rw [get?_captureHeaders, get?_captureHeaders, Option.isSome_map, Option.isSome_map]
  · intro label value hvalue
    rw [get?_captureHeaders] at hvalue ⊢
    obtain ⟨entry, hentry, rfl⟩ := Option.map_eq_some_iff.mp hvalue
    rw [hentry, Option.map_some]
    by_cases hmore : more.isMatch entry.1 = true
    · exact .inr (by rw [shownValue, if_pos hmore])
    · have hshown : ¬ hidden.isMatch entry.1 = true := fun hhidden => hmore (h _ hhidden)
      exact .inl (by rw [shownValue, shownValue, if_neg hmore, if_neg hshown])

theorem keys_captureHeaders_subset (hidden : HeaderMatcher)
    (h : ∀ name, allowed.isMatch name = true → more.isMatch name = true) :
    (captureHeaders allowed hidden key headers).keys ⊆
      (captureHeaders more hidden key headers).keys := by
  intro label hlabel
  obtain ⟨name, hname, hallowed, hshares⟩ := (mem_keys_captureHeaders _ _).mp hlabel
  exact (mem_keys_captureHeaders _ _).mpr ⟨name, hname, h name hallowed, hshares⟩

end Capture

/-- Configurations whose lists of patterns are related, those that allow by one relation and those
that hide by another. -/
structure Config.PatternsRelated (allow hide : List String → List String → Prop)
    (config other : Config) : Prop where
  request : allow config.serverRequest other.serverRequest
  response : allow config.serverResponse other.serverResponse
  sanitize : hide config.sanitizeFields other.sanitizeFields

namespace HeaderCapture

variable {config other : Config} (environ : Environ) (headers : List (String × String))

theorem attributes_of_isMatch {capture changed : HeaderCapture}
    (hrequest : ∀ name, changed.request.isMatch name = capture.request.isMatch name)
    (hresponse : ∀ name, changed.response.isMatch name = capture.response.isMatch name)
    (hhidden : ∀ name, changed.hidden.isMatch name = capture.hidden.isMatch name) :
    changed.requestAttributes environ = capture.requestAttributes environ ∧
      changed.responseAttributes headers = capture.responseAttributes headers :=
  ⟨captureHeaders_of_isMatch _ _ hrequest hhidden, captureHeaders_of_isMatch _ _ hresponse hhidden⟩

/-- If more request headers are allowed, the attributes of the others stay as they are. -/
theorem get?_requestAttributes_of_allow {capture changed : HeaderCapture}
    (hrequest : ∀ name, capture.request.isMatch name = true → changed.request.isMatch name = true)
    (hhidden : changed.hidden = capture.hidden) {label : String} {value : AttributeValue}
    (hvalue : (capture.requestAttributes environ).get? label = some value) :
    (changed.requestAttributes environ).get? label = some value := by
  obtain ⟨name, hname, hallowed, rfl⟩ := (mem_keys_captureHeaders _ _).mp
    (Dictionary.mem_keys_iff.mpr (Option.isSome_of_mem hvalue))
  obtain ⟨values, hvalues⟩ := Option.isSome_iff_exists.mp (Dictionary.mem_keys_iff.mp hname)
  have hbefore := (capture.isDecisive_request hname hallowed).get?_captureHeaders
    capture.hidden hvalues
  have hafter := (changed.isDecisive_request hname (hrequest name hallowed)).get?_captureHeaders
    changed.hidden hvalues
  unfold requestAttributes
  rw [hhidden] at hafter ⊢
  exact hafter.trans (hbefore.symm.trans hvalue)

/-- Whatever the library makes of expressions, attributes depend neither on the order of patterns
nor on how often one is given. Blank and malformed patterns change none, and each malformed one is
warned about once. With more patterns that hide, some values are the mark instead; with more that
allow, no attribute is lost, and those of request headers stay as they are. -/
theorem attributes_of_patterns (compile : Regex.Compiler) (config other : Config)
    (environ : Environ) (headers : List (String × String)) :
    let capture := ofConfig config compile
    let changed := ofConfig other compile
    (config.PatternsRelated SameMembers SameMembers other →
      changed.requestAttributes environ = capture.requestAttributes environ ∧
        changed.responseAttributes headers = capture.responseAttributes headers) ∧
    (config.PatternsRelated (SameUsable compile) (SameUsable compile) other →
      changed.requestAttributes environ = capture.requestAttributes environ ∧
        changed.responseAttributes headers = capture.responseAttributes headers) ∧
    warnings config compile =
      ((config.serverRequest ++ config.serverResponse ++ config.sanitizeFields).filter
        (HeaderPattern.isMalformed compile)).map (fun w =>
          .log (malformedPatternRecord (Text.trim w) (HeaderPattern.complaint compile w))) ∧
    (config.PatternsRelated Eq List.Sublist other →
      (capture.requestAttributes environ).IsMarking (changed.requestAttributes environ) ∧
        (capture.responseAttributes headers).IsMarking (changed.responseAttributes headers)) ∧
    (config.PatternsRelated List.Sublist Eq other →
      (∀ key value, (capture.requestAttributes environ).get? key = some value →
        (changed.requestAttributes environ).get? key = some value) ∧
      (capture.responseAttributes headers).keys ⊆ (changed.responseAttributes headers).keys) := by
  intro capture changed
  refine ⟨fun h => ?_, fun h => ?_, ?_, fun h => ?_, fun h => ?_⟩
  · apply attributes_of_isMatch
    · exact HeaderMatcher.isMatch_of_sameMembers h.request
    · exact HeaderMatcher.isMatch_of_sameMembers h.response
    · exact HeaderMatcher.isMatch_of_sameMembers h.sanitize
  · apply attributes_of_isMatch
    · exact HeaderMatcher.isMatch_of_sameUsable h.request
    · exact HeaderMatcher.isMatch_of_sameUsable h.response
    · exact HeaderMatcher.isMatch_of_sameUsable h.sanitize
  · unfold warnings
    simp only [HeaderMatcher.warnings_eq_map, List.filter_append, List.map_append]
  · have hmore (name : String) : capture.hidden.isMatch name = true →
        changed.hidden.isMatch name = true :=
      HeaderMatcher.isMatch_of_subset h.sanitize.subset
    have hrequest : changed.request = capture.request := by
      simp [changed, capture, ofConfig, h.request]
    have hresponse : changed.response = capture.response := by
      simp [changed, capture, ofConfig, h.response]
    unfold requestAttributes responseAttributes
    rw [hrequest, hresponse]
    exact ⟨isMarking_captureHeaders _ _ _ hmore, isMarking_captureHeaders _ _ _ hmore⟩
  · have hhidden : changed.hidden = capture.hidden := by
      simp [changed, capture, ofConfig, h.sanitize]
    constructor
    · intro key value hvalue
      exact get?_requestAttributes_of_allow environ
        (fun _ => HeaderMatcher.isMatch_of_subset h.request.subset) hhidden hvalue
    · unfold responseAttributes
      rw [hhidden]
      exact keys_captureHeaders_subset _ _ _
        fun _ => HeaderMatcher.isMatch_of_subset h.response.subset

theorem attributes_of_patterns_mixed :
    let library : Regex.Library :=
      { Regex.Library.standard with
        complaint := fun pattern => "regex parse error:\n    " ++ pattern ++ "\n    ^\nerror: " ++
          if pattern = "(" then "unclosed group" else "unclosed character class" }
    let capture (config : Config) : HeaderCapture := ofConfig config library.compile
    let config : Config :=
      { serverRequest := ["x-a", "^x-b"], serverResponse := ["x-.*"], sanitizeFields := ["x-c"] }
    let moved : Config :=
      { serverRequest := ["^x-b", "x-a", "^x-b"], serverResponse := ["x-.*", "x-.*"],
        sanitizeFields := ["x-c"] }
    let padded : Config :=
      { serverRequest := [" ", "x-a", " [x ", "^x-b"], serverResponse := ["x-.*", "[x"],
        sanitizeFields := ["(", "x-c", "[x"] }
    let screened : Config := { config with sanitizeFields := ["^x-a$", "x-c"] }
    let widened : Config :=
      { config with serverRequest := ["x-a", ".*", "^x-b"], serverResponse := ["x-.*", "x_a"] }
    let environ : Environ := .ofList [("HTTP_X_A", "1"), ("HTTP_X_B", "2"), ("HTTP_VIA", "3")]
    let headers := [("X-A", "4"), ("x_a", "5")]
    let attributes := (capture config).requestAttributes environ
    let answered := (capture config).responseAttributes headers
    config.PatternsRelated SameMembers SameMembers moved ∧
      (capture moved).requestAttributes environ = attributes ∧
      config.PatternsRelated (SameUsable library.compile) (SameUsable library.compile) padded ∧
      (capture padded).responseAttributes headers = answered ∧
      warnings padded library.compile = ["[x", "[x", "(", "[x"].map (fun p =>
        .log (malformedPatternRecord p (library.complaint p))) ∧
      config.PatternsRelated Eq List.Sublist screened ∧
      answered.IsMarking ((capture screened).responseAttributes headers) ∧
      config.PatternsRelated List.Sublist Eq widened ∧
      ((capture widened).requestAttributes environ).get? "http.request.header.x_a" =
        some (.texts ["1"]) := by
  intro library capture config moved padded screened widened environ headers attributes answered
  have hmoved : config.PatternsRelated SameMembers SameMembers moved := by
    constructor
    all_goals
      intro w
      simp [config, moved]
    tauto
  have hpadded : config.PatternsRelated (SameUsable library.compile) (SameUsable library.compile)
      padded := by
    constructor
    all_goals decide +kernel
  have hscreened : config.PatternsRelated Eq List.Sublist screened :=
    ⟨rfl, rfl, by decide⟩
  have hwidened : config.PatternsRelated List.Sublist Eq widened :=
    ⟨by decide, by decide, rfl⟩
  obtain ⟨hsame, _⟩ := attributes_of_patterns library.compile config moved environ headers
  obtain ⟨_, husable, _⟩ := attributes_of_patterns library.compile config padded environ headers
  obtain ⟨_, _, hwarned, _⟩ := attributes_of_patterns library.compile padded config environ headers
  obtain ⟨_, _, _, hmarked, _⟩ :=
    attributes_of_patterns library.compile config screened environ headers
  obtain ⟨_, _, _, _, hkept⟩ :=
    attributes_of_patterns library.compile config widened environ headers
  exact ⟨hmoved, (hsame hmoved).1, hpadded, (husable hpadded).2,
    hwarned.trans (by decide +kernel), hscreened, (hmarked hscreened).2, hwidened,
    (hkept hwidened).1 _ _ (by decide +kernel)⟩

end HeaderCapture

end RequestTracing
