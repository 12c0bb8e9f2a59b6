import RequestTracing.Proofs.Header.Hiding
import RequestTracing.Proofs.Http.HeaderVariables
/-!
Requests whose header variables are spelled in one way, as those are that were received. Each header
then has one variable, and its captured value is that of the variable.
-/
namespace RequestTracing

/-- Whether the header variables are in upper case with underscores. -/
def Environ.IsCanonical (environ : Environ) : Prop :=
  ∀ key ∈ environ.keys, ∀ name, Variable.header? key = some name → Variable.ofHeader name = key

theorem foldName_variable (name : String) :
    foldName (.ofList (name.toList.map variableChar)) = foldName name := by
  simp [foldName_eq, Function.comp_def, foldedChar_variableChar]

theorem Http.Incoming.environ_isCanonical (request : Incoming) (remote : Option SocketAddress) :
    (request.environ remote).IsCanonical := by
  intro key hkey rest hrest
  obtain ⟨name, _, rfl⟩ := exists_hasHeader remote hrest hkey
  rw [Variable.header?_ofHeader] at hrest
  rw [← Option.some.inj hrest, Variable.ofHeader_eq_iff, foldName_variable]

theorem Environ.IsCanonical.get?_requestHeaders {environ : Environ} (h : environ.IsCanonical)
    (name : String) :
    (HeaderCapture.requestHeaders environ).get? (foldName name) =
      (environ.get? (Variable.ofHeader name)).map fun value => [value] := by
  have hset : HeaderCapture.requestHeaders environ = .ofPairs (environ.headerVariables.map
      fun entry => (Text.exchange '_' '-' entry.1, entry.2)) := rfl
  have hvalues : HeaderSet.valuesUnder (foldName name) (environ.headerVariables.map
      fun entry => (Text.exchange '_' '-' entry.1, entry.2)) =
        (environ.get? (Variable.ofHeader name)).toList := by
    rw [← Dictionary.filterMap_entries]
    unfold HeaderSet.valuesUnder Environ.headerVariables
    rw [List.filterMap_map, List.filterMap_filterMap]
    refine List.filterMap_congr fun entry hentry => ?_
    have hkey : entry.1 ∈ environ.keys := List.mem_map_of_mem hentry
    cases hheader : Variable.header? entry.1 with
    | none =>
      have hother : entry.1 ≠ Variable.ofHeader name := by
        intro heq
        rw [heq, Variable.header?_ofHeader] at hheader
        cases hheader
      simp [hheader, hother]
    | some rest =>
      have hsame : foldName rest = foldName name ↔ entry.1 = Variable.ofHeader name := by
        rw [← h entry.1 hkey rest hheader, Variable.ofHeader_eq_iff]
      simp [hheader, lower_exchange, hsame]
  rw [hset, HeaderSet.get?_ofPairs, hvalues]
  cases environ.get? (Variable.ofHeader name) <;> simp

namespace HeaderCapture

theorem requestHeaderAttribute_foldName (name : String) :
    requestHeaderAttribute (foldName name) = requestHeaderAttribute name :=
  (headerAttribute_eq_iff _ _ _).mpr (foldName_foldName name)

theorem isMatch_hidden_of_nil {config : Config} (h : config.sanitizeFields = [])
    (compile : Regex.Compiler) (name : String) :
    (ofConfig config compile).hidden.isMatch name = false := by
  rw [ofConfig, h]
  rfl

end HeaderCapture

theorem Environ.IsCanonical.get?_requestAttributes {environ : Environ} (h : environ.IsCanonical)
    (capture : HeaderCapture) {name value : String}
    (hallowed : capture.request.isMatch (foldName name) = true)
    (hvalue : environ.get? (Variable.ofHeader name) = some value) :
    (capture.requestAttributes environ).get? (requestHeaderAttribute name) =
      some (.texts [shownValue capture.hidden (foldName name) value]) := by
  have hvalues := h.get?_requestHeaders name
  rw [hvalue, Option.map_some] at hvalues
  have hmem : foldName name ∈ (HeaderCapture.requestHeaders environ).keys :=
    Dictionary.mem_keys_iff.mpr (Option.isSome_of_mem hvalues)
  have hshown := (capture.isDecisive_request hmem hallowed).get?_captureHeaders
    capture.hidden hvalues
  rw [HeaderCapture.requestHeaderAttribute_foldName] at hshown
  exact hshown

theorem Http.Incoming.mem_keys_requestHeaders {request : Incoming}
    {remote : Option SocketAddress} {folded : String} :
    folded ∈ (HeaderCapture.requestHeaders (request.environ remote)).keys ↔
      ∃ name, request.HasHeader name ∧ foldName name = folded := by
  refine ⟨fun h => ?_, ?_⟩
  · obtain ⟨⟨rest, value⟩, hentry, rfl⟩ := HeaderCapture.mem_keys_requestHeaders.mp h
    obtain ⟨entry, hmem, hsome⟩ := List.mem_filterMap.mp hentry
    obtain ⟨spelled, hspelled, heq⟩ := Option.map_eq_some_iff.mp hsome
    obtain ⟨rfl, rfl⟩ := Prod.mk.inj heq
    obtain ⟨name, hname, hvariable⟩ :=
      exists_hasHeader remote hspelled (List.mem_map_of_mem hmem)
    rw [← hvariable, Variable.header?_ofHeader] at hspelled
    exact ⟨name, hname, by rw [← Option.some.inj hspelled, foldName_variable]⟩
  · rintro ⟨name, hname, rfl⟩
    obtain ⟨_, _, _, _, _, _, _, hvalue⟩ := hname.get?_environ remote
    rw [Dictionary.mem_keys_iff, (request.environ_isCanonical remote).get?_requestHeaders, hvalue]
    rfl

end RequestTracing
