import RequestTracing.Header.Capture
import RequestTracing.Proofs.Http.LabelFacts
import RequestTracing.Proofs.Text.Numerals
/-!
What may stand in the description of a request. Whatever the variables hold, its attributes are of
fixed names and kinds, those that may be missing are never empty, and a request whose target is
known is described without its path.
-/
namespace RequestTracing.Http

open AttributeName

/-- Whether a port is written as a number that fits in 64 bits with a sign, with any white space
around it. -/
def IsPortNumber (written : String) (n : Int) : Prop :=
  Text.IsNumeral (Text.trim written).toList n ∧ -0x8000000000000000 ≤ n ∧ n < 0x8000000000000000

/-- The attributes that are numbers, with the variables that they are read from. -/
def portAttributes : List (String × String) :=
  [(netHostPort, Variable.serverPort), (netPeerPort, Variable.remotePort)]

def nonemptyAttributes : List String :=
  [httpUserAgent, netPeerIp, netPeerName, httpFlavor]

/-- Whether the target of a request is known as the client sent it. -/
def HasTarget (environ : Environ) : Prop :=
  Variable.rawUri ∈ environ.keys ∨ Variable.requestUri ∈ environ.keys

/-- What is known of the attributes of a request, whatever its variables hold. -/
structure Describes (environ : Environ) (keepAllMethods : Bool) (attributes : Attributes) :
    Prop where
  target : httpTarget ∈ attributes.keys ↔ HasTarget environ
  url : httpUrl ∈ attributes.keys ↔ httpTarget ∉ attributes.keys
  noStatus : httpStatusCode ∉ attributes.keys
  noHeaders : ∀ start ∈ [requestHeaderStart, responseHeaderStart], ∀ name : String,
    start ++ name ∉ attributes.keys
  kinds : ∀ name value, attributes.get? name = some value →
    (name ∈ portAttributes.map (·.1) ∧ ∃ n, value = .int n) ∨
      (name ∉ portAttributes.map (·.1) ∧ ∃ s, value = .text s)
  nonempty : ∀ name ∈ nonemptyAttributes, attributes.get? name ≠ some (.text "")
  peer : ∀ value, attributes.get? netPeerName = some value →
    attributes.get? netPeerIp ≠ some value
  port : ∀ name key, (name, key) ∈ portAttributes → ∀ n,
    attributes.get? name = some (.int n) ↔
      ∃ written, environ.get? key = some written ∧ IsPortNumber written n
  method : keepAllMethods = false → ∀ value, attributes.get? httpMethod = some value →
    ∃ method ∈ nonstandardMethod :: knownMethods, value = .text method

/-- Whether requests differ in nothing but their path and query. -/
def SameButPath (environ other : Environ) : Prop :=
  ∀ key, key ∉ [Variable.scriptName, Variable.pathInfo, Variable.queryString] →
    other.get? key = environ.get? key

section Facts

variable {environ : Environ} {keepAllMethods : Bool} {name : String} {value : AttributeValue}

theorem mem_requestFacts_of_get? (h : (requestAttributes environ keepAllMethods).get? name =
    some value) : (name, some value) ∈ requestFacts environ keepAllMethods := by
  by_cases hfact : ∃ fact, (name, fact) ∈ requestFacts environ keepAllMethods
  · obtain ⟨fact, hfact⟩ := hfact
    rw [get?_requestAttributes hfact] at h
    exact h ▸ hfact
  · have hnone : (requestAttributes environ keepAllMethods).get? name = none := by
      refine get?_requestAttributes_of_ne fun fact hmem heq => ?_
      subst heq
      exact hfact ⟨fact.2, hmem⟩
    rw [hnone] at h
    cases h

theorem kind_of_mem_requestFacts (h : (name, some value) ∈ requestFacts environ keepAllMethods) :
    (name ∈ portAttributes.map (·.1) ∧ ∃ n, value = .int n) ∨
      (name ∉ portAttributes.map (·.1) ∧ ∃ s, value = .text s) := by
  have htext {s : Option String} (h : some value = s.map .text) : ∃ s, value = .text s := by
    obtain ⟨s, _, rfl⟩ := Option.map_eq_some_iff.mp h.symm
    exact ⟨s, rfl⟩
  have hint {n : Option Int} (h : some value = n.map .int) : ∃ n, value = .int n := by
    obtain ⟨n, _, rfl⟩ := Option.map_eq_some_iff.mp h.symm
    exact ⟨n, rfl⟩
  simp only [requestFacts, List.mem_cons, Prod.mk.injEq, List.not_mem_nil, or_false] at h
  rcases h with ⟨rfl, h⟩ | ⟨rfl, h⟩ | ⟨rfl, h⟩ | ⟨rfl, h⟩ | ⟨rfl, h⟩ | ⟨rfl, h⟩ | ⟨rfl, h⟩ |
    ⟨rfl, h⟩ | ⟨rfl, h⟩ | ⟨rfl, h⟩ | ⟨rfl, h⟩ | ⟨rfl, h⟩
  all_goals first
    | exact .inl ⟨by decide, hint h⟩
    | exact .inr ⟨by decide, htext h⟩

theorem mem_attributeNames_of_mem_keys
    (h : name ∈ (requestAttributes environ keepAllMethods).keys) : name ∈ attributeNames := by
  obtain ⟨value, hvalue⟩ := Option.isSome_iff_exists.mp (Dictionary.mem_keys_iff.mp h)
  rw [← map_fst_requestFacts environ keepAllMethods]
  exact List.mem_map_of_mem (f := Prod.fst) (mem_requestFacts_of_get? hvalue)

theorem get?_target : (requestAttributes environ keepAllMethods).get? httpTarget =
    (requestTarget? environ).map .text :=
  get?_requestAttributes (by simp [requestFacts])

theorem get?_peerIp : (requestAttributes environ keepAllMethods).get? netPeerIp =
    (environ.getNonEmpty? Variable.remoteAddr).map .text :=
  get?_requestAttributes (by simp [requestFacts])

theorem get?_peerName : (requestAttributes environ keepAllMethods).get? netPeerName =
    (peerName? environ).map .text :=
  get?_requestAttributes (by simp [requestFacts])

theorem get?_method : (requestAttributes environ keepAllMethods).get? httpMethod =
    ((environ.get? Variable.requestMethod).map (sanitizeMethod · keepAllMethods)).map .text :=
  get?_requestAttributes (by simp [requestFacts])

theorem isSome_requestTarget? : (requestTarget? environ).isSome = true ↔ HasTarget environ := by
  unfold HasTarget requestTarget?
  rw [Dictionary.mem_keys_iff, Dictionary.mem_keys_iff]
  cases environ.get? Variable.rawUri <;> simp

theorem mem_keys_target :
    httpTarget ∈ (requestAttributes environ keepAllMethods).keys ↔ HasTarget environ := by
  rw [Dictionary.mem_keys_iff, get?_target, Option.isSome_map, isSome_requestTarget?]

theorem mem_keys_url :
    httpUrl ∈ (requestAttributes environ keepAllMethods).keys ↔ ¬ HasTarget environ := by
  have hurl : (requestAttributes environ keepAllMethods).get? httpUrl =
      (if (requestTarget? environ).isSome then none
        else some (Url.removeCredentials (requestUrl environ))).map .text :=
    get?_requestAttributes (by simp [requestFacts])
  rw [Dictionary.mem_keys_iff, hurl, ← isSome_requestTarget?]
  cases (requestTarget? environ).isSome <;> simp

theorem get?_ne_empty (h : name ∈ nonemptyAttributes) :
    (requestAttributes environ keepAllMethods).get? name ≠ some (.text "") := by
  have hne {o : Option String} (ho : o ≠ some "") :
      o.map AttributeValue.text ≠ some (.text "") := by
    intro h
    obtain ⟨s, hs, heq⟩ := Option.map_eq_some_iff.mp h
    cases heq
    exact ho hs
  have hfilter (o : Option String) : o.filter (· ≠ "") ≠ some "" := by simp
  simp only [nonemptyAttributes, List.mem_cons, List.not_mem_nil, or_false] at h
  rcases h with rfl | rfl | rfl | rfl
  · have hagent : (requestAttributes environ keepAllMethods).get? httpUserAgent =
        (environ.getNonEmpty? Variable.httpUserAgent).map .text :=
      get?_requestAttributes (by simp [requestFacts])
    rw [hagent]
    exact hne (hfilter _)
  · rw [get?_peerIp]
    exact hne (hfilter _)
  · rw [get?_peerName]
    refine hne fun h => hfilter (environ.get? Variable.remoteHost) ?_
    exact (Option.filter_eq_some_iff.mp h).1
  · have hflavor : (requestAttributes environ keepAllMethods).get? httpFlavor =
        ((some (flavor (environ.getText Variable.serverProtocol))).filter (· ≠ "")).map .text :=
      get?_requestAttributes (by simp [requestFacts])
    rw [hflavor]
    exact hne (hfilter _)

theorem get?_peerIp_ne (h : (requestAttributes environ keepAllMethods).get? netPeerName =
    some value) : (requestAttributes environ keepAllMethods).get? netPeerIp ≠ some value := by
  rw [get?_peerName] at h
  obtain ⟨host, hhost, rfl⟩ := Option.map_eq_some_iff.mp h
  have hdiffers := (Option.filter_eq_some_iff.mp hhost).2
  rw [get?_peerIp]
  intro hip
  obtain ⟨address, haddress, heq⟩ := Option.map_eq_some_iff.mp hip
  cases heq
  simp [haddress] at hdiffers

/-- A port is there just if its variable is written as a number. -/
theorem get?_port {key : String} (h : (name, key) ∈ portAttributes) (n : Int) :
    (requestAttributes environ keepAllMethods).get? name = some (.int n) ↔
      ∃ written, environ.get? key = some written ∧ IsPortNumber written n := by
  have hport : (requestAttributes environ keepAllMethods).get? name =
      (portNumber? environ key).map .int := by
    simp only [portAttributes, List.mem_cons, Prod.mk.injEq, List.not_mem_nil, or_false] at h
    rcases h with ⟨rfl, rfl⟩ | ⟨rfl, rfl⟩
    all_goals exact get?_requestAttributes (by simp [requestFacts])
  rw [hport, portNumber?_eq, Option.map_eq_some_iff]
  simp only [AttributeValue.int.injEq, exists_eq_right, Option.bind_eq_some_iff,
    Text.readInt64?_eq_some_iff, IsPortNumber, Text.trim, String.toList_ofList]

/-- Unless all methods are kept, a method is a known one or stands for all others. -/
theorem sanitizeMethod_mem (method : String) :
    sanitizeMethod method false ∈ nonstandardMethod :: knownMethods := by
  simp only [sanitizeMethod, Bool.false_or, List.mem_cons]
  split
  · rename_i hknown
    exact .inr (by simpa using hknown)
  · exact .inl rfl

end Facts

/-- A request whose target is known is described without its path and query. -/
theorem requestAttributes_of_sameButPath {environ other : Environ}
    (h : SameButPath environ other) (htarget : HasTarget environ) (keepAllMethods : Bool) :
    requestAttributes other keepAllMethods = requestAttributes environ keepAllMethods := by
  have hknown : (requestTarget? environ).isSome = true := isSome_requestTarget?.mpr htarget
  have hsame : requestTarget? other = requestTarget? environ := by
    rw [requestTarget?, requestTarget?, h _ (by decide), h _ (by decide)]
  have hget : ∀ key, key ∉ [Variable.scriptName, Variable.pathInfo, Variable.queryString] →
      other.get? key = environ.get? key := h
  have hfacts : requestFacts other keepAllMethods = requestFacts environ keepAllMethods := by
    simp (disch := decide) only [requestFacts, portNumber?, peerName?, Environ.getNonEmpty?,
      Environ.getText, hsame, hknown, if_true, hget]
  rw [requestAttributes_eq_foldl, requestAttributes_eq_foldl, hfacts]

/-- The attributes of a request, for whatever it holds and whether all methods are kept, and what
they do not depend on if the target is known. -/
theorem requestAttributes_describes (environ : Environ) (keepAllMethods : Bool) :
    Describes environ keepAllMethods (requestAttributes environ keepAllMethods) ∧
    ∀ other, SameButPath environ other → HasTarget environ →
      requestAttributes other keepAllMethods = requestAttributes environ keepAllMethods := by
  constructor
  · constructor
    · exact mem_keys_target
    · rw [mem_keys_url, mem_keys_target]
    · exact fun h => absurd (mem_attributeNames_of_mem_keys h) (by decide)
    · intro start hstart name h
      have hnone : ∀ start ∈ [requestHeaderStart, responseHeaderStart], ∀ key ∈ attributeNames,
          Text.after? start.toList key.toList = none := by decide
      have hafter := hnone start hstart _ (mem_attributeNames_of_mem_keys h)
      rw [String.toList_append, Text.after?_append] at hafter
      cases hafter
    · exact fun name value h => kind_of_mem_requestFacts (mem_requestFacts_of_get? h)
    · exact fun name => get?_ne_empty
    · exact fun value => get?_peerIp_ne
    · exact fun name key => get?_port
    · rintro rfl value h
      rw [get?_method, Option.map_map] at h
      obtain ⟨method, _, rfl⟩ := Option.map_eq_some_iff.mp h
      exact ⟨_, sanitizeMethod_mem method, rfl⟩
  · exact fun other h htarget => requestAttributes_of_sameButPath h htarget keepAllMethods

theorem requestAttributes_describes_aimed :
    let environ : Environ := .ofList [(Variable.requestMethod, "brew"),
      (Variable.requestUri, "/pot?x"), (Variable.serverPort, "\u2003+080 "),
      (Variable.remotePort, "8\u00b2"), (Variable.remoteAddr, "10.0.0.1"),
      (Variable.remoteHost, "10.0.0.1"), (Variable.httpUserAgent, ""),
      (Variable.serverProtocol, "HTT\u00e9/1")]
    let other := (environ.insert Variable.pathInfo "/secret").insert Variable.queryString "q"
    let attributes := requestAttributes environ false
    SameButPath environ other ∧ HasTarget environ ∧ requestAttributes other false = attributes ∧
      httpTarget ∈ attributes.keys ∧ httpUrl ∉ attributes.keys ∧
      IsPortNumber "\u2003+080 " 80 ∧ attributes.get? netHostPort = some (.int 80) ∧
      ∃ method ∈ nonstandardMethod :: knownMethods,
        AttributeValue.text "NONSTANDARD" = .text method := by
  intro environ other attributes
  have hsame : SameButPath environ other := by
    intro key hkey
    simp only [List.mem_cons, List.not_mem_nil, or_false, not_or] at hkey
    rw [Dictionary.get?_insert, if_neg (Ne.symm hkey.2.2), Dictionary.get?_insert,
      if_neg (Ne.symm hkey.2.1)]
  have htarget : HasTarget environ := .inr (by decide)
  have hport : IsPortNumber "\u2003+080 " 80 :=
    ⟨Text.readInteger?_eq_some_iff.mp (by decide), by decide, by decide⟩
  obtain ⟨hdescribes, hframe⟩ := requestAttributes_describes environ false
  have hknown : httpTarget ∈ attributes.keys := hdescribes.target.mpr htarget
  exact ⟨hsame, htarget, hframe other hsame htarget, hknown,
    fun hurl => hdescribes.url.mp hurl hknown, hport,
    (hdescribes.port _ Variable.serverPort (by decide) 80).mpr ⟨_, by decide, hport⟩,
    hdescribes.method rfl _ (by decide)⟩

end RequestTracing.Http
