import RequestTracing.Proofs.Header.Grouping
import RequestTracing.Proofs.Header.Spelling
/-!
Hidden headers among captured ones. A request header that is hidden shows the mark, whatever other
headers there are. The names of response headers may share an attribute, and then the mark shows
only if the greatest of them is hidden.
-/
namespace RequestTracing.HeaderCapture

theorem mem_keys_requestHeaders {environ : Environ} {name : String} :
    name ∈ (requestHeaders environ).keys ↔
      ∃ entry ∈ environ.headerVariables, foldName entry.1 = name := by
  rw [requestHeaders, HeaderSet.mem_keys_ofPairs]
  refine ⟨?_, ?_⟩
  · rintro ⟨pair, hpair, rfl⟩
    obtain ⟨entry, hentry, rfl⟩ := List.mem_map.mp hpair
    exact ⟨entry, hentry, (lower_exchange entry.1).symm⟩
  · rintro ⟨entry, hentry, rfl⟩
    exact ⟨_, List.mem_map_of_mem hentry, lower_exchange entry.1⟩

theorem foldName_of_mem_requestHeaders {environ : Environ} {name : String}
    (hname : name ∈ (requestHeaders environ).keys) : foldName name = name := by
  obtain ⟨entry, _, rfl⟩ := mem_keys_requestHeaders.mp hname
  exact foldName_foldName entry.1

variable (capture : HeaderCapture)

theorem isDecisive_request {environ : Environ} {name : String}
    (hname : name ∈ (requestHeaders environ).keys)
    (hallowed : capture.request.isMatch name = true) :
    IsDecisive capture.request requestHeaderAttribute (requestHeaders environ)
      (requestHeaderAttribute name) name := by
  refine ⟨hname, hallowed, rfl, fun other hother _ hshares => ?_⟩
  have hfolded : foldName other = foldName name := (headerAttribute_eq_iff _ _ _).mp hshares
  rw [foldName_of_mem_requestHeaders hother, foldName_of_mem_requestHeaders hname] at hfolded
  exact hfolded ▸ String.le_refl other

theorem shownValue_of_isMatch {hidden : HeaderMatcher} {name : String}
    (h : hidden.isMatch name = true) (value : String) : shownValue hidden name value = redacted :=
  if_pos h

/-- A value shows as the mark if its name is hidden or it reads like the mark itself. -/
theorem shownValue_eq_redacted_iff (hidden : HeaderMatcher) (name value : String) :
    shownValue hidden name value = redacted ↔ hidden.isMatch name = true ∨ value = redacted := by
  unfold shownValue
  split <;> simp_all

/-- A captured request header that is hidden shows the mark. A captured response header that is
hidden shows the mark just if the greatest of the captured names with its attribute does. -/
theorem attributes_redacted (environ : Environ) (headers : List (String × String)) :
    (∀ entry ∈ environ.headerVariables,
      let name := foldName entry.1
      capture.request.isMatch name = true → capture.hidden.isMatch name = true →
      (capture.requestAttributes environ).get? (requestHeaderAttribute name) =
        some (.texts [redacted])) ∧
    ∀ entry ∈ headers,
      let name := Text.lower entry.1
      let label := responseHeaderAttribute name
      capture.response.isMatch name = true → capture.hidden.isMatch name = true →
      ∃ last,
        let value := ",".intercalate (HeaderSet.valuesUnder last headers)
        IsDecisive capture.response responseHeaderAttribute (.ofPairs headers) label last ∧
        (capture.responseAttributes headers).get? label =
          some (.texts [shownValue capture.hidden last value]) ∧
        ((capture.responseAttributes headers).get? label = some (.texts [redacted]) ↔
          capture.hidden.isMatch last = true ∨ value = redacted) := by
  refine ⟨?_, ?_⟩
  · intro entry hentry name hallowed hhidden
    have hname : name ∈ (requestHeaders environ).keys :=
      mem_keys_requestHeaders.mpr ⟨entry, hentry, rfl⟩
    obtain ⟨values, hvalues⟩ :=
      Option.isSome_iff_exists.mp (Dictionary.mem_keys_iff.mp hname)
    have hshown := (capture.isDecisive_request hname hallowed).get?_captureHeaders
      capture.hidden hvalues
    rwa [shownValue_of_isMatch hhidden] at hshown
  · intro entry hentry name label hallowed hhidden
    have hname : name ∈ (HeaderSet.ofPairs headers).keys :=
      HeaderSet.mem_keys_ofPairs.mpr ⟨entry, hentry, rfl⟩
    obtain ⟨last, hlast⟩ := exists_isDecisive responseHeaderAttribute hname hallowed
    have hvalues : (HeaderSet.ofPairs headers).get? last =
        some (HeaderSet.valuesUnder last headers) := by
      have hadded := HeaderSet.valuesUnder_ne_nil.mpr (HeaderSet.mem_keys_ofPairs.mp hlast.mem)
      rw [HeaderSet.get?_ofPairs, if_neg hadded]
    have hshown := hlast.get?_captureHeaders capture.hidden hvalues
    refine ⟨last, hlast, hshown, ?_⟩
    rw [responseAttributes, hshown, ← shownValue_eq_redacted_iff]
    simp

/-- Captures all headers and hides those of one name, which is told apart from the others with its
attribute. -/
def screening : HeaderCapture :=
  .ofConfig { serverRequest := [".*"], serverResponse := [".*"], sanitizeFields := ["^x-a$"] }

theorem attributes_redacted_screening :
    let environ : Environ := .ofList [("HTTP_X_A", "secret"), ("HTTP_X_B", "open")]
    let headers := [("x_b", "open"), ("X-A", "secret")]
    screening.request.isMatch (foldName "X_A") = true ∧
      screening.hidden.isMatch (foldName "X_A") = true ∧
      (screening.requestAttributes environ).get? (requestHeaderAttribute (foldName "X_A")) =
        some (.texts [redacted]) ∧
      screening.response.isMatch (Text.lower "X-A") = true ∧
      screening.hidden.isMatch (Text.lower "X-A") = true ∧
      (screening.responseAttributes headers).get? (responseHeaderAttribute (Text.lower "X-A")) =
        some (.texts [redacted]) := by
  intro environ headers
  have hrequest : screening.request.isMatch (foldName "X_A") = true := by decide +kernel
  have hresponse : screening.response.isMatch (Text.lower "X-A") = true := by decide +kernel
  have hhidden : screening.hidden.isMatch (Text.lower "X-A") = true := by decide +kernel
  have hfolded : screening.hidden.isMatch (foldName "X_A") = true := by decide +kernel
  obtain ⟨hmarks, hshown⟩ := attributes_redacted screening environ headers
  obtain ⟨last, hlast, _, hiff⟩ := hshown ("X-A", "secret") (by decide) hresponse hhidden
  have hname : screening.hidden.isMatch last = true := by
    obtain ⟨pair, hpair, rfl⟩ := HeaderSet.mem_keys_ofPairs.mp hlast.mem
    have hshares := hlast.shares
    simp only [headers, List.mem_cons, List.not_mem_nil, or_false] at hpair
    rcases hpair with rfl | rfl
    · exact absurd hshares (by decide +kernel)
    · exact hhidden
  exact ⟨hrequest, hfolded, hmarks ("X_A", "secret") (by decide +kernel) hrequest hfolded,
    hresponse, hhidden, hiff.mpr (.inl hname)⟩

/-- A hidden name shows the value of a greater one that shares its attribute. -/
theorem responseAttributes_unhidden :
    let headers := [("x-a", "secret"), ("x_a", "open")]
    screening.response.isMatch "x-a" = true ∧ screening.hidden.isMatch "x-a" = true ∧
      (screening.responseAttributes headers).get? (responseHeaderAttribute "x-a") =
        some (.texts ["open"]) ∧ "open" ≠ redacted := by
  decide +kernel

end RequestTracing.HeaderCapture
