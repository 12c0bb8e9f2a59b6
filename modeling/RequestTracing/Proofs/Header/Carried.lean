import RequestTracing.Header.Carrier
import RequestTracing.Proofs.Header.Canonical
import RequestTracing.Proofs.Regex.Repetition
/-!
The headers of a request as the carrier of trace context gives them and as they are captured. Both
give the same names, and in canonical variables the same values.
-/
namespace RequestTracing

/-- Whether a name is spelled as in a variable: without small letters and hyphens. -/
def IsVariableSpelling (name : String) : Prop :=
  ∀ c ∈ name.toList, c.isLower = false ∧ c ≠ '-'

instance (name : String) : Decidable (IsVariableSpelling name) :=
  List.decidableBAll (fun c : Char => c.isLower = false ∧ c ≠ '-') name.toList

theorem variableChar_eq_self_iff (c : Char) :
    variableChar c = c ↔ c.isLower = false ∧ c ≠ '-' := by
  constructor
  · intro h
    constructor
    · rw [← h]
      unfold variableChar
      split
      · rfl
      · exact Char.isLower_toUpper_eq_false c
    · rintro rfl
      exact absurd h (by decide)
  · rintro ⟨hlower, hhyphen⟩
    have hupper : c.toUpper = c := Char.toUpper_eq_of_not_isLower (by simp [hlower])
    rw [variableChar, hupper, if_neg hhyphen]

theorem map_variableChar_eq_self_iff (name : String) :
    .ofList (name.toList.map variableChar) = name ↔ IsVariableSpelling name := by
  constructor
  · intro h c hc
    have hlist : name.toList.map variableChar = name.toList.map id := by
      rw [List.map_id, ← String.toList_ofList (l := name.toList.map variableChar), h]
    exact (variableChar_eq_self_iff c).mp (List.map_inj_left.mp hlist c hc)
  · intro h
    rw [List.map_congr_left fun c hc => (variableChar_eq_self_iff c).mpr (h c hc), List.map_id',
      String.ofList_toList]

/-- Header variables are canonical just if their names are spelled as in variables. -/
theorem Environ.isCanonical_iff {environ : Environ} :
    environ.IsCanonical ↔ ∀ entry ∈ environ.headerVariables, IsVariableSpelling entry.1 := by
  have hspelled (key name : String) (hname : Variable.header? key = some name) :
      Variable.ofHeader name = key ↔ IsVariableSpelling name := by
    rw [Variable.ofHeader_eq, Variable.header?_eq_some_iff.mp hname, String.append_right_inj,
      map_variableChar_eq_self_iff]
  constructor
  · intro h entry hentry
    obtain ⟨⟨key, value⟩, hmem, hsome⟩ := List.mem_filterMap.mp hentry
    obtain ⟨name, hname, rfl⟩ := Option.map_eq_some_iff.mp hsome
    exact (hspelled key name hname).mp (h key (List.mem_map_of_mem hmem) name hname)
  · intro h key hkey name hname
    obtain ⟨entry, hmem, rfl⟩ := List.mem_map.mp hkey
    exact (hspelled entry.1 name hname).mpr
      (h (name, entry.2) (List.mem_filterMap.mpr ⟨entry, hmem, by simp [hname]⟩))

theorem HeaderMatcher.isMatch_dotStar (name : String) :
    (HeaderMatcher.ofPatterns [".*"]).isMatch name = true := by
  have hread : HeaderPattern.read ".*" =
      .pattern (.regex
        (Regex.repeated (.one (Regex.CharClass.single '\n').compl) 0 none).isMatch) := by rfl
  simp [ofPatterns, isMatch, hread, HeaderPattern.Reading.pattern?, HeaderPattern.isMatch,
    Regex.isMatch_repeated]

namespace Carrier

variable {environ : Environ} {name : String}

theorem mem_keys_iff : name ∈ keys environ ↔ name ∈ (HeaderCapture.requestHeaders environ).keys := by
  rw [HeaderCapture.mem_keys_requestHeaders]
  exact List.mem_map

theorem keys_nodup (h : environ.IsCanonical) : (keys environ).Nodup := by
  unfold keys Environ.headerVariables
  rw [List.map_filterMap, List.Nodup, List.pairwise_filterMap]
  refine environ.ascending.imp_of_mem fun {entry other} hentry hother hless => ?_
  intro name hname folded hfolded heq
  obtain ⟨pair, hpair, rfl⟩ := Option.map_eq_some_iff.mp hname
  obtain ⟨second, hsecond, rfl⟩ := Option.map_eq_some_iff.mp hfolded
  obtain ⟨spelled, hspelled, rfl⟩ := Option.map_eq_some_iff.mp hpair
  obtain ⟨spelling, hspelling, rfl⟩ := Option.map_eq_some_iff.mp hsecond
  have hkeys : entry.1 = other.1 := by
    rw [← h entry.1 (List.mem_map_of_mem hentry) spelled hspelled,
      ← h other.1 (List.mem_map_of_mem hother) spelling hspelling]
    exact (Variable.ofHeader_eq_iff spelled spelling).mpr heq
  rw [hkeys] at hless
  exact String.lt_irrefl _ hless

/-- In canonical variables a name has a value just if it is given when folded. -/
theorem isSome_get?_iff (h : environ.IsCanonical) (name : String) :
    (get? environ name).isSome = true ↔ foldName name ∈ keys environ := by
  rw [mem_keys_iff, Dictionary.mem_keys_iff, h.get?_requestHeaders, Option.isSome_map]
  rfl

end Carrier

namespace HeaderCapture

variable {config : Config} (hall : config.serverRequest = [".*"])

include hall

theorem isMatch_request (name : String) : (ofConfig config).request.isMatch name = true := by
  rw [ofConfig, hall]
  exact HeaderMatcher.isMatch_dotStar name

variable (hopen : config.sanitizeFields = [])

include hopen

theorem get?_requestAttributes_of_mem_carrier {environ : Environ} (h : environ.IsCanonical)
    {name : String} (hname : name ∈ Carrier.keys environ) :
    ∃ value, Carrier.get? environ name = some value ∧
      ((ofConfig config).requestAttributes environ).get? (requestHeaderAttribute name) =
        some (.texts [value]) := by
  have hmem := Carrier.mem_keys_iff.mp hname
  have hfolded := foldName_of_mem_requestHeaders hmem
  have hsome : (Carrier.get? environ name).isSome = true := by
    rw [Carrier.isSome_get?_iff h, hfolded]
    exact hname
  obtain ⟨value, hvalue⟩ := Option.isSome_iff_exists.mp hsome
  have hshown := h.get?_requestAttributes (ofConfig config) (isMatch_request hall _) hvalue
  rw [shownValue, isMatch_hidden_of_nil hopen] at hshown
  exact ⟨value, hvalue, hshown⟩

/-- If all request headers are captured and none is hidden, the attributes are those of the names
that the carrier gives. In canonical variables, as those of every received request are, no name is
given twice, each has the value that is captured of it, and the names that have a value are those
that are given when folded. -/
theorem requestAttributes_agree_carrier (environ : Environ) :
    let attributes := (ofConfig config).requestAttributes environ
    (∀ key, key ∈ attributes.keys ↔
      ∃ name ∈ Carrier.keys environ, requestHeaderAttribute name = key) ∧
    ((∀ entry ∈ environ.headerVariables, IsVariableSpelling entry.1) →
      (Carrier.keys environ).Nodup ∧
      (∀ name ∈ Carrier.keys environ, ∃ value, Carrier.get? environ name = some value ∧
        Carrier.values? environ name = some [value] ∧
        attributes.get? (requestHeaderAttribute name) = some (.texts [value])) ∧
      ∀ name, (Carrier.get? environ name).isSome = true ↔ foldName name ∈ Carrier.keys environ) ∧
    ∀ (request : Http.Incoming) (remote : Option SocketAddress),
      ∀ entry ∈ (request.environ remote).headerVariables, IsVariableSpelling entry.1 := by
  intro attributes
  refine ⟨fun key => ?_, fun hspelled => ?_, fun request remote => ?_⟩
  · apply (mem_keys_captureHeaders _ _).trans
    constructor
    · rintro ⟨name, hname, _, hkey⟩
      exact ⟨name, Carrier.mem_keys_iff.mpr hname, hkey⟩
    · rintro ⟨name, hname, hkey⟩
      exact ⟨name, Carrier.mem_keys_iff.mp hname, isMatch_request hall name, hkey⟩
  · have hcanonical := Environ.isCanonical_iff.mpr hspelled
    refine ⟨Carrier.keys_nodup hcanonical, fun name hname => ?_,
      Carrier.isSome_get?_iff hcanonical⟩
    obtain ⟨value, hvalue, hshown⟩ :=
      get?_requestAttributes_of_mem_carrier hall hopen hcanonical hname
    exact ⟨value, hvalue, by rw [Carrier.values?, hvalue, Option.map_some], hshown⟩
  · exact Environ.isCanonical_iff.mp (request.environ_isCanonical remote)

omit hall hopen

theorem requestAttributes_agree_carrier_mixed :
    let config : Config := { serverRequest := [".*"], serverResponse := ["x-.*"] }
    let environ : Environ := .ofList
      [("PATH_INFO", "/"), ("HTTP_X_A", "1"), ("HTTP_", "bare"), ("HTTP_É", "ü"), ("X_B", "2")]
    let attributes := (ofConfig config).requestAttributes environ
    config.serverRequest = [".*"] ∧ config.sanitizeFields = [] ∧
      (∀ entry ∈ environ.headerVariables, IsVariableSpelling entry.1) ∧
      attributes.keys = ["http.request.header.", "http.request.header.x_a",
        "http.request.header.É"] ∧
      (Carrier.keys environ).Nodup ∧ Carrier.values? environ "x-a" = some ["1"] ∧
      attributes.get? "http.request.header.x_a" = some (.texts ["1"]) ∧
      (Carrier.get? environ "X_a").isSome = true ∧ (Carrier.get? environ "x-b").isSome = false := by
  intro config environ attributes
  have hall : config.serverRequest = [".*"] := rfl
  have hopen : config.sanitizeFields = [] := rfl
  have hspelled : ∀ entry ∈ environ.headerVariables, IsVariableSpelling entry.1 := by
    decide +kernel
  have hkeys : Carrier.keys environ = ["", "x-a", "É"] := by decide +kernel
  obtain ⟨_, hcanonical, _⟩ := requestAttributes_agree_carrier hall hopen environ
  obtain ⟨hnodup, hvalues, hnames⟩ := hcanonical hspelled
  obtain ⟨value, hvalue, hlist, hshown⟩ := hvalues "x-a" (by rw [hkeys]; decide)
  have hone : Carrier.get? environ "x-a" = some "1" := by decide +kernel
  obtain rfl := Option.some.inj (hvalue.symm.trans hone)
  exact ⟨hall, hopen, hspelled, by decide +kernel, hnodup, hlist, hshown,
    (hnames "X_a").mpr (by rw [hkeys]; decide +kernel),
    by
      rw [Bool.eq_false_iff, ne_eq, hnames, hkeys]
      decide +kernel⟩

end HeaderCapture

end RequestTracing
