import RequestTracing.Proofs.Header.Grouping
import RequestTracing.Proofs.Text.ByteOrder
/-!
What is captured of the headers of a response, told name by name. The order of the headers matters
only among those of one name, and the letter case of the names does not matter.
-/
namespace RequestTracing

namespace HeaderSet

/-- The name of each header in lower case, with all values of that name in order. -/
def grouped (headers : List (String × String)) : List (String × List String) :=
  headers.map fun header => (Text.lower header.1, valuesUnder (Text.lower header.1) headers)

theorem mem_entries_ofPairs {headers : List (String × String)} {group : String × List String} :
    group ∈ (ofPairs headers).entries ↔ group ∈ grouped headers := by
  obtain ⟨name, values⟩ := group
  rw [← Dictionary.get?_eq_some_iff, get?_ofPairs]
  constructor
  · intro h
    split at h
    · cases h
    · rename_i hsome
      obtain ⟨header, hheader, rfl⟩ := valuesUnder_ne_nil.mp hsome
      exact List.mem_map.mpr ⟨header, hheader, by rw [Option.some.inj h]⟩
  · intro h
    obtain ⟨header, hheader, hgroup⟩ := List.mem_map.mp h
    obtain ⟨rfl, rfl⟩ := Prod.mk.inj hgroup
    rw [if_neg (valuesUnder_ne_nil.mpr ⟨header, hheader, rfl⟩)]

/-- Headers are grouped alike if every name has the same values among them. -/
theorem ofPairs_congr {headers others : List (String × String)}
    (h : ∀ name, valuesUnder name others = valuesUnder name headers) :
    ofPairs others = ofPairs headers := by
  apply Dictionary.ext_get?
  intro name
  rw [get?_ofPairs, get?_ofPairs, h]

/-- The values of a name depend on the names in lower case only. -/
theorem valuesUnder_map_lower (name : String) (headers : List (String × String)) :
    valuesUnder name headers = (headers.map fun header => (Text.lower header.1, header.2)).filterMap
      fun (folded, value) => if folded = name then some value else none := by
  rw [List.filterMap_map]
  rfl

/-- The values of a name depend on the headers of that name only. -/
theorem valuesUnder_filter (name : String) (headers : List (String × String)) :
    valuesUnder name headers =
      (headers.filter fun header => decide (Text.lower header.1 = name)).map (·.2) := by
  induction headers with
  | nil => rfl
  | cons header headers ih =>
    unfold valuesUnder at ih ⊢
    by_cases hname : Text.lower header.1 = name
    · simp [hname, ih]
    · simp [hname, ih]

end HeaderSet

section Greatest

variable {groups : List (String × List String)}

theorem eq_nil_of_maxOn?_bytes (h : groups.maxOn? (Text.bytes ·.1) = none) : groups = [] := by
  have hsome : (groups.maxOn? (Text.bytes ·.1)).isSome = true ↔ groups ≠ [] :=
    List.isSome_maxOn?_iff
  simpa [h] using hsome

theorem le_of_maxOn?_bytes {group other : String × List String}
    (h : groups.maxOn? (Text.bytes ·.1) = some group) (hother : other ∈ groups) :
    other.1 ≤ group.1 := by
  have hle := List.le_apply_get_maxOn?_of_mem (f := fun group => Text.bytes group.1) hother
  simp only [h, Option.get_some] at hle
  exact Text.bytes_le_iff.mp hle

end Greatest

variable (allowed hidden : HeaderMatcher) (key : String → String)

/-- An attribute shows the group with the greatest name of those that are allowed and share it. -/
theorem get?_captureHeaders_eq_maxOn? {headers : HeaderSet} {groups : List (String × List String)}
    (h : ∀ group, group ∈ headers.entries ↔ group ∈ groups) (label : String) :
    (captureHeaders allowed hidden key headers).get? label =
      (((groups.filter fun group => allowed.isMatch group.1).filter fun group =>
        decide (key group.1 = label)).maxOn? (Text.bytes ·.1)).map
      fun (name, values) => .texts [shownValue hidden name (",".intercalate values)] := by
  have hkept {group : String × List String} :
      group ∈ (groups.filter fun group => allowed.isMatch group.1).filter
          (fun group => decide (key group.1 = label)) ↔
        group ∈ headers.entries ∧ allowed.isMatch group.1 = true ∧ key group.1 = label := by
    simp only [List.mem_filter, decide_eq_true_eq, and_assoc, h]
  generalize (groups.filter fun group => allowed.isMatch group.1).filter
    (fun group => decide (key group.1 = label)) = sharing at hkept ⊢
  cases hmax : sharing.maxOn? (Text.bytes ·.1) with
  | none =>
    rw [Option.map_none, ← Option.not_isSome_iff_eq_none, ← Dictionary.mem_keys_iff,
      mem_keys_captureHeaders]
    rintro ⟨name, hname, hallowed, hshares⟩
    obtain ⟨group, hgroup, rfl⟩ := List.mem_map.mp hname
    have hmem := hkept.mpr ⟨hgroup, hallowed, hshares⟩
    rw [eq_nil_of_maxOn?_bytes hmax] at hmem
    cases hmem
  | some group =>
    obtain ⟨hgroup, hallowed, hshares⟩ := hkept.mp (List.maxOn?_mem hmax)
    have hdecisive : IsDecisive allowed key headers label group.1 := by
      refine ⟨List.mem_map_of_mem hgroup, hallowed, hshares, fun name hname hother hsame => ?_⟩
      obtain ⟨other, hmem, rfl⟩ := List.mem_map.mp hname
      exact le_of_maxOn?_bytes hmax (hkept.mpr ⟨hmem, hother, hsame⟩)
    exact hdecisive.get?_captureHeaders hidden (Dictionary.get?_eq_some_iff.mpr hgroup)

/-- The value that response headers give an attribute: of the headers that are allowed and share
it, the one with the greatest name in bytes shows its joined values, or the mark if it is hidden. -/
def Config.shownUnder (compile : Regex.Compiler) (config : Config)
    (headers : List (String × String)) (label : String) : Option AttributeValue :=
  let kept := (HeaderSet.grouped headers).filter fun group =>
    matchesAny group.1 config.serverResponse compile
  let sharing := kept.filter fun group => decide (responseHeaderAttribute group.1 = label)
  (sharing.maxOn? (Text.bytes ·.1)).map fun (name, values) =>
    .texts [if matchesAny name config.sanitizeFields compile then redacted
      else ",".intercalate values]

namespace HeaderCapture

/-- Each attribute has the value that the headers of a response give it. Neither another letter case
of the names nor an order that is the same among the headers of each name changes any of them. -/
theorem responseAttributes_eq_shownUnder (compile : Regex.Compiler) (config : Config)
    (headers : List (String × String)) :
    (∀ label, ((ofConfig config compile).responseAttributes headers).get? label =
      config.shownUnder compile headers label) ∧
    (∀ others : List (String × String),
      others.map (fun header => (Text.lower header.1, header.2)) =
        headers.map (fun header => (Text.lower header.1, header.2)) →
      (ofConfig config compile).responseAttributes others =
        (ofConfig config compile).responseAttributes headers) ∧
    ∀ others : List (String × String),
      (∀ name, others.filter (fun header => decide (Text.lower header.1 = name)) =
        headers.filter fun header => decide (Text.lower header.1 = name)) →
      (ofConfig config compile).responseAttributes others =
        (ofConfig config compile).responseAttributes headers := by
  refine ⟨fun label => ?_, fun others hcase => ?_, fun others horder => ?_⟩
  · unfold responseAttributes Config.shownUnder
    rw [get?_captureHeaders_eq_maxOn? _ _ _ fun _ => HeaderSet.mem_entries_ofPairs]
    rfl
  · have hvalues (name : String) :
        HeaderSet.valuesUnder name others = HeaderSet.valuesUnder name headers := by
      rw [HeaderSet.valuesUnder_map_lower, hcase, ← HeaderSet.valuesUnder_map_lower]
    unfold responseAttributes
    rw [HeaderSet.ofPairs_congr hvalues]
  · have hvalues (name : String) :
        HeaderSet.valuesUnder name others = HeaderSet.valuesUnder name headers := by
      rw [HeaderSet.valuesUnder_filter, horder, ← HeaderSet.valuesUnder_filter]
    unfold responseAttributes
    rw [HeaderSet.ofPairs_congr hvalues]

theorem responseAttributes_eq_shownUnder_shared :
    let config : Config := { serverResponse := [".*"], sanitizeFields := ["^x-a$"] }
    let headers := [("X_a", "1"), ("x-a", "secret"), ("Via", "p"), ("x_A", "2")]
    let renamed := [("x_a", "1"), ("X-A", "secret"), ("via", "p"), ("X_A", "2")]
    let moved := [("Via", "p"), ("x-a", "secret"), ("X_a", "1"), ("x_A", "2")]
    let attributes := (ofConfig config).responseAttributes headers
    attributes.get? "http.response.header.x_a" = some (.texts ["1,2"]) ∧
      renamed.map (fun header => (Text.lower header.1, header.2)) =
        headers.map (fun header => (Text.lower header.1, header.2)) ∧
      (ofConfig config).responseAttributes renamed = attributes ∧
      (∀ name, moved.filter (fun header => decide (Text.lower header.1 = name)) =
        headers.filter fun header => decide (Text.lower header.1 = name)) ∧
      (ofConfig config).responseAttributes moved = attributes := by
  intro config headers renamed moved attributes
  have hcase : renamed.map (fun header => (Text.lower header.1, header.2)) =
      headers.map (fun header => (Text.lower header.1, header.2)) := by decide
  have horder : ∀ name, moved.filter (fun header => decide (Text.lower header.1 = name)) =
      headers.filter fun header => decide (Text.lower header.1 = name) := by
    intro name
    by_cases hvia : Text.lower "Via" = name
    · subst hvia
      decide
    · by_cases hother : Text.lower "x-a" = name
      · subst hother
        decide
      · simp only [moved, headers, List.filter_cons, hvia, hother, decide_false,
          Bool.false_eq_true, if_false]
  obtain ⟨hvalues, hrenamed, hmoved⟩ :=
    responseAttributes_eq_shownUnder Regex.Library.standard.compile config headers
  exact ⟨(hvalues _).trans (by decide +kernel), hcase, hrenamed renamed hcase, horder,
    hmoved moved horder⟩

end HeaderCapture

end RequestTracing
