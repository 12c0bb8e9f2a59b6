import RequestTracing.Proofs.Header.Canonical
import RequestTracing.Proofs.Text.ReadBack
/-!
Capture of request headers by plain names. The attributes are those of the received headers that the
patterns name, each with the values of the header that its variable holds.
-/
namespace RequestTracing

theorem foldName_eq_empty_iff {name : String} : foldName name = "" ↔ name = "" := by
  rw [foldName_eq, String.ofList_eq_empty_iff, List.map_eq_nil_iff, String.toList_eq_nil_iff]

theorem HeaderPattern.read_of_literal {written : String}
    (h : ∀ c ∈ written.toList, c ∉ specialCharacters) (compile : Regex.Compiler) :
    read written compile = if Text.trim written = "" then .blank
      else .pattern (.literal (foldName (Text.trim written))) := by
  have hplain : isExpression (Text.trim written) = false := by
    apply List.any_eq_false.mpr
    intro c hc
    rw [Text.trim, String.toList_ofList] at hc
    simpa using h c (Text.mem_of_mem_trimChars hc)
  unfold read
  by_cases hblank : Text.trim written = "" <;> simp [hblank, hplain]

theorem HeaderMatcher.isMatch_ofPatterns_iff {patterns : List String}
    (h : ∀ pattern ∈ patterns, ∀ c ∈ pattern.toList, c ∉ specialCharacters) {name : String}
    (hname : name ≠ "") (compile : Regex.Compiler) :
    (ofPatterns patterns compile).isMatch name = true ↔
      ∃ pattern ∈ patterns, foldName (Text.trim pattern) = foldName name := by
  have hmatch (pattern : String) (hpattern : pattern ∈ patterns) :
      (HeaderPattern.read pattern compile).pattern?.any (·.isMatch name) = true ↔
        foldName (Text.trim pattern) = foldName name := by
    rw [HeaderPattern.read_of_literal (h pattern hpattern) compile]
    split
    · rename_i hblank
      have hempty : foldName "" ≠ foldName name :=
        fun heq => hname (foldName_eq_empty_iff.mp (heq ▸ rfl))
      simp [HeaderPattern.Reading.pattern?, hblank, hempty]
    · simp [HeaderPattern.Reading.pattern?, HeaderPattern.isMatch]
  rw [isMatch, ofPatterns, List.any_filterMap, List.any_eq_true]
  refine exists_congr fun pattern => and_congr_right fun hpattern => ?_
  rw [← hmatch pattern hpattern]
  cases (HeaderPattern.read pattern compile).pattern? <;> rfl

namespace HeaderCapture

def Names (patterns : List String) (request : Http.Incoming) (name : String) : Prop :=
  request.HasHeader name ∧ ∃ pattern ∈ patterns, foldName (Text.trim pattern) = foldName name

variable {request : Http.Incoming} {config : Config} (compile : Regex.Compiler)
  (hnames : ∀ header ∈ request.headers, Http.isToken header.1 = true)
  (hliteral : ∀ pattern ∈ config.serverRequest, ∀ c ∈ pattern.toList, c ∉ specialCharacters)

include hnames hliteral

theorem isMatch_request_iff {name : String} (hname : request.HasHeader name) :
    (ofConfig config compile).request.isMatch (foldName name) = true ↔
      Names config.serverRequest request name := by
  have hnonempty : name ≠ "" := by
    obtain ⟨header, hheader, rfl⟩ := List.mem_map.mp (List.mem_eraseDups.mp hname.mem)
    intro heq
    have htoken := hnames header hheader
    rw [heq] at htoken
    exact absurd htoken (by decide)
  have hfolded : foldName name ≠ "" := fun heq => hnonempty (foldName_eq_empty_iff.mp heq)
  rw [Names, and_iff_right hname]
  refine (HeaderMatcher.isMatch_ofPatterns_iff hliteral hfolded compile).trans ?_
  rw [foldName_foldName]

theorem exists_names_of_mem_keys {remote : Option SocketAddress} {key : String}
    (hkey : key ∈ ((ofConfig config compile).requestAttributes (request.environ remote)).keys) :
    ∃ name, Names config.serverRequest request name ∧ requestHeaderAttribute name = key := by
  obtain ⟨folded, hfolded, hallowed, rfl⟩ := (mem_keys_captureHeaders _ _).mp hkey
  obtain ⟨name, hname, rfl⟩ := Http.Incoming.mem_keys_requestHeaders.mp hfolded
  exact ⟨name, (isMatch_request_iff compile hnames hliteral hname).mp hallowed,
    (requestHeaderAttribute_foldName name).symm⟩

variable (hhidden : config.sanitizeFields = [])

include hhidden

/-- The attribute of a header that the patterns name shows what the variable of the header holds. -/
theorem get?_requestAttributes_of_names {name : String}
    (hname : Names config.serverRequest request name) (remote : Option SocketAddress) :
    ((ofConfig config compile).requestAttributes (request.environ remote)).get?
        (requestHeaderAttribute name) =
      ((request.environ remote).get? (Variable.ofHeader name)).map fun value => .texts [value] := by
  obtain ⟨_, _, _, _, _, _, _, hvalue⟩ := hname.1.get?_environ remote
  have hallowed := (isMatch_request_iff compile hnames hliteral hname.1).mpr hname
  rw [hvalue, Option.map_some, (request.environ_isCanonical remote).get?_requestAttributes _
    hallowed hvalue, shownValue, isMatch_hidden_of_nil hhidden compile]
  rfl

/-- With patterns that are plain names and nothing to hide, whatever would be made of expressions, a
received request has one attribute for each variable of a header that they name, and it shows the
values of the name with that variable that was first seen latest. -/
theorem requestAttributes_of_literals (remote : Option SocketAddress) :
    let attributes := (ofConfig config compile).requestAttributes (request.environ remote)
    let Named := Names config.serverRequest request
    (∀ name, Named name → ∃ before last after,
      request.headerNames = before ++ last :: after ∧ Named last ∧
      Variable.ofHeader last = Variable.ofHeader name ∧
      (∀ later ∈ after, Named later → Variable.ofHeader later ≠ Variable.ofHeader name) ∧
      attributes.get? (requestHeaderAttribute name) =
        some (.texts [",".intercalate (request.readableValues last)])) ∧
    (∀ key ∈ attributes.keys, ∃ name, Named name ∧ requestHeaderAttribute name = key) ∧
    ∀ name other, requestHeaderAttribute name = requestHeaderAttribute other ↔
      Variable.ofHeader name = Variable.ofHeader other := by
  intro attributes Named
  refine ⟨fun name hname => ?_, fun key hkey => ?_, fun name other => ?_⟩
  · obtain ⟨before, last, after, hsplit, hlast, hvariable, hafter, hvalue⟩ :=
      hname.1.get?_environ remote
    have hnamed : Named last := by
      refine ⟨hlast, ?_⟩
      rw [(Variable.ofHeader_eq_iff last name).mp hvariable]
      exact hname.2
    have hshown := get?_requestAttributes_of_names compile hnames hliteral hhidden hname remote
    rw [hvalue] at hshown
    exact ⟨before, last, after, hsplit, hnamed, hvariable,
      fun later hlater hlaterNamed => hafter later hlater hlaterNamed.1, hshown⟩
  · exact exists_names_of_mem_keys compile hnames hliteral hkey
  · exact (headerAttribute_eq_iff _ _ _).trans (Variable.ofHeader_eq_iff _ _).symm

omit hnames hliteral hhidden

def colliding : Http.Incoming :=
  { method := "GET", uri := { path := "/" }
    headers := [("x-a", [49]), ("x_a", [255]), ("content-type", [50]), ("x_a", [51]),
      ("x-a", [52]), ("x_a", [53])] }

theorem requestAttributes_of_literals_colliding :
    let config : Config := { serverRequest := [" X-A ", "", "content_type"] }
    let attributes := (ofConfig config).requestAttributes (colliding.environ none)
    (∀ header ∈ colliding.headers, Http.isToken header.1 = true) ∧
      (∀ pattern ∈ config.serverRequest, ∀ c ∈ pattern.toList, c ∉ specialCharacters) ∧
      config.sanitizeFields = [] ∧
      attributes.get? "http.request.header.x_a" = some (.texts ["3,5"]) ∧
      ∀ key ∈ attributes.keys, key = "http.request.header.x_a" := by
  intro config attributes
  have hnames : ∀ header ∈ colliding.headers, Http.isToken header.1 = true := by decide
  have hliteral : ∀ pattern ∈ config.serverRequest, ∀ c ∈ pattern.toList,
      c ∉ specialCharacters := by simp [config, specialCharacters]
  have hheaders : colliding.headerNames = ["x-a", "x_a", "content-type"] := by decide
  have hfirst : Names config.serverRequest colliding "x-a" :=
    ⟨⟨by decide, by decide, by decide, by decide⟩, " X-A ", by decide, by decide +kernel⟩
  have hsecond : Names config.serverRequest colliding "x_a" :=
    ⟨⟨by decide, by decide, by decide, by decide⟩, " X-A ", by decide, by decide +kernel⟩
  obtain ⟨hvalues, hkeys, hlabels⟩ := requestAttributes_of_literals
    Regex.Library.standard.compile hnames hliteral rfl none
  refine ⟨hnames, hliteral, rfl, ?_, fun key hkey => ?_⟩
  · obtain ⟨before, last, after, hsplit, hlast, _, hafter, hvalue⟩ := hvalues "x-a" hfirst
    have hsame : Variable.ofHeader "x_a" = Variable.ofHeader "x-a" := by decide
    have hreadable : ",".intercalate (colliding.readableValues "x_a") = "3,5" := by decide
    have hname : last = "x_a" := by
      have hmem : last ∈ colliding.headerNames := by simp [hsplit]
      rw [hheaders] at hmem hsplit
      simp only [List.mem_cons, List.not_mem_nil, or_false] at hmem
      rcases hmem with rfl | rfl | rfl
      · cases before with
        | nil =>
          have hlater : "x_a" ∈ after := by
            rw [← (List.cons.inj hsplit).2]
            exact List.mem_cons_self
          exact absurd hsame (hafter "x_a" hlater hsecond)
        | cons name before =>
          have hlater : "x-a" ∈ ["x_a", "content-type"] := by
            rw [(List.cons.inj hsplit).2]
            simp
          exact absurd hlater (by decide)
      · rfl
      · exact absurd rfl hlast.1.notType
    rw [hname, hreadable] at hvalue
    exact hvalue
  · obtain ⟨name, hname, rfl⟩ := hkeys key hkey
    have hmem := hname.1.mem
    rw [hheaders] at hmem
    simp only [List.mem_cons, List.not_mem_nil, or_false] at hmem
    rcases hmem with rfl | rfl | rfl
    · decide
    · decide
    · exact absurd rfl hname.1.notType

end HeaderCapture

end RequestTracing
