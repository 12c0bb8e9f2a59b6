import RequestTracing.Proofs.Http.Description
import RequestTracing.Proofs.Text.Trim
/-!
What the name of a request's span shows of its method, beside what the method's attribute and the
labels show. The name is made of the method without the white space around it, the others of the
method as it stands, so they agree just where that white space does not tell.
-/
namespace RequestTracing.Http

open AttributeName

/-- What the name of a span says after the method, which is the path if there is one. -/
def pathSuffix (environ : Environ) : String :=
  let path := Text.trim (environ.getText Variable.pathInfo)
  if path = "" then "" else " " ++ path

/-- Whether a method is shown alike with the white space around it and without. Either there is
none, or the method is folded with it and without. -/
def IsShownAlike (method : String) (keepAllMethods : Bool) : Prop :=
  Text.trim method = method ∨
    (keepAllMethods = false ∧ Text.upper (Text.trim method) ∉ knownMethods)

/-! ## Methods with white space around them -/

section Methods

variable {method : String} {keepAllMethods : Bool}

theorem trim_of_known (h : Text.upper method ∈ knownMethods) : Text.trim method = method := by
  have hknown : ∀ known ∈ knownMethods, ∀ c ∈ known.toList, Text.isBlank c = false := by
    simp [knownMethods, Text.isBlank]
  have hblank : ∀ c ∈ method.toList, Text.isBlank c = false := by
    intro c hc
    by_contra hne
    have hc' : c.toUpper ∈ (Text.upper method).toList := by
      rw [Text.upper, String.toList_ofList]
      exact List.mem_map_of_mem hc
    rw [Text.toUpper_of_isBlank (Bool.not_eq_false _ ▸ hne)] at hc'
    exact hne (hknown _ h c hc')
  rw [Text.trim, Text.trimChars_eq_self hblank, String.ofList_toList]

theorem length_upper (s : String) : (Text.upper s).toList.length = s.toList.length := by
  rw [Text.upper, String.toList_ofList, List.length_map]

theorem upper_trim_eq_iff : Text.upper (Text.trim method) = Text.upper method ↔
    Text.trim method = method := by
  constructor
  · intro h
    have hlength := congrArg (·.toList.length) h
    simp only [length_upper] at hlength
    exact Text.trim_of_length_eq hlength
  · exact congrArg Text.upper

theorem sanitizeMethod_of_known (h : Text.upper method ∈ knownMethods) :
    sanitizeMethod method keepAllMethods = Text.upper method := by
  simp [sanitizeMethod, h]

theorem sanitizeMethod_of_unknown (h : Text.upper method ∉ knownMethods) :
    sanitizeMethod method false = nonstandardMethod := by
  simp [sanitizeMethod, h]

theorem sanitizeMethod_trim_eq_iff : sanitizeMethod (Text.trim method) keepAllMethods =
    sanitizeMethod method keepAllMethods ↔ IsShownAlike method keepAllMethods := by
  unfold IsShownAlike
  cases keepAllMethods with
  | true => simp [sanitizeMethod, upper_trim_eq_iff]
  | false =>
    by_cases hmethod : Text.trim method = method
    · simp [hmethod]
    -- A method with white space around it is folded, so it is shown alike if it is without it too.
    have hunknown : Text.upper method ∉ knownMethods := fun h => hmethod (trim_of_known h)
    rw [sanitizeMethod_of_unknown hunknown]
    by_cases htrimmed : Text.upper (Text.trim method) ∈ knownMethods
    · have hunlisted : nonstandardMethod ∉ knownMethods := by decide
      have hfolded : Text.upper (Text.trim method) ≠ nonstandardMethod := fun heq =>
        hunlisted (heq ▸ htrimmed)
      simp [sanitizeMethod_of_known htrimmed, hfolded, hmethod, htrimmed]
    · simp [sanitizeMethod_of_unknown htrimmed, htrimmed]

end Methods

/-! ## Names and labels -/

theorem spanName_eq (environ : Environ) (keepAllMethods : Bool) :
    spanName environ keepAllMethods =
      sanitizeMethod (Text.trim (environ.getText Variable.requestMethod)) keepAllMethods ++
        pathSuffix environ := by
  simp only [spanName, pathSuffix]
  split
  · rw [String.append_empty]
  · rw [String.append_assoc]

section Shown

variable {environ : Environ} {method : String} {keepAllMethods : Bool}

theorem get?_method_of (h : environ.get? Variable.requestMethod = some method) :
    (requestAttributes environ keepAllMethods).get? httpMethod =
      some (.text (sanitizeMethod method keepAllMethods)) := by
  rw [get?_method, h]
  rfl

theorem get?_method_activeLabels (attributes : Attributes) :
    (activeLabels attributes).get? httpMethod = attributes.get? httpMethod := by
  rw [activeLabels, Attributes.get?_project, if_pos (by decide)]

theorem get?_method_durationLabels (attributes : Attributes) (status : Option AttributeValue) :
    ((durationLabels attributes).insertSome httpStatusCode status).get? httpMethod =
      attributes.get? httpMethod := by
  rw [Dictionary.get?_insertSome, if_neg (by decide), durationLabels, Attributes.get?_project,
    if_pos (by decide)]

/-- The attribute and the labels of a request show its method alike, at its start and when its
response is known. The name of its span shows the method without the white space around it, with the
path behind it, and that is the same method just if the white space makes no difference. -/
theorem spanName_shows_method (hmethod : environ.get? Variable.requestMethod = some method)
    (keepAllMethods : Bool) :
    let attributes := requestAttributes environ keepAllMethods
    let shown := sanitizeMethod method keepAllMethods
    attributes.get? httpMethod = some (.text shown) ∧
    (activeLabels attributes).get? httpMethod = some (.text shown) ∧
    (∀ status, ((durationLabels attributes).insertSome httpStatusCode status).get? httpMethod =
      some (.text shown)) ∧
    spanName environ keepAllMethods =
      sanitizeMethod (Text.trim method) keepAllMethods ++ pathSuffix environ ∧
    (spanName environ keepAllMethods = shown ++ pathSuffix environ ↔
      IsShownAlike method keepAllMethods) := by
  intro attributes shown
  have hattribute : attributes.get? httpMethod = some (.text shown) := get?_method_of hmethod
  have hname : spanName environ keepAllMethods =
      sanitizeMethod (Text.trim method) keepAllMethods ++ pathSuffix environ := by
    rw [spanName_eq, Environ.getText, hmethod, Option.getD_some]
  refine ⟨hattribute, ?_, fun status => ?_, hname, ?_⟩
  · rw [get?_method_activeLabels, hattribute]
  · rw [get?_method_durationLabels, hattribute]
  · rw [hname, String.append_left_inj, sanitizeMethod_trim_eq_iff]

end Shown

theorem spanName_shows_method_folded :
    let environ : Environ := .ofList [(Variable.requestMethod, " purge\u2003"),
      (Variable.pathInfo, "/x")]
    environ.get? Variable.requestMethod = some " purge\u2003" ∧
      spanName environ false = "NONSTANDARD /x" ∧
      (durationLabels (requestAttributes environ false)).get? httpMethod =
        some (.text "NONSTANDARD") := by
  intro environ
  have hmethod : environ.get? Variable.requestMethod = some " purge\u2003" := by decide
  obtain ⟨-, -, hduration, hname, -⟩ := spanName_shows_method hmethod false
  refine ⟨hmethod, hname.trans (by decide), ?_⟩
  exact (hduration none).trans (by decide)

/-- A known method with white space around it is folded everywhere but in the name of the span. -/
theorem spanName_shows_other_method :
    let environ : Environ := .ofList [(Variable.requestMethod, " post "),
      (Variable.pathInfo, " /x ")]
    (requestAttributes environ false).get? httpMethod = some (.text "NONSTANDARD") ∧
      spanName environ false = "POST /x" ∧
      ¬ ∀ shown, (requestAttributes environ false).get? httpMethod = some (.text shown) →
        spanName environ false = shown ++ pathSuffix environ := by
  intro environ
  have hmethod : environ.get? Variable.requestMethod = some " post " := by decide
  have hattribute : (requestAttributes environ false).get? httpMethod =
      some (.text "NONSTANDARD") := (get?_method_of hmethod).trans (by decide)
  refine ⟨hattribute, by decide, fun h => ?_⟩
  exact absurd (h "NONSTANDARD" hattribute) (by decide)

end RequestTracing.Http
