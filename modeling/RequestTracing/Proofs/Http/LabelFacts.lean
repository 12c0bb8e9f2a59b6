import RequestTracing.Proofs.Dictionary.Lookup
import RequestTracing.Http.RequestAttributes
/-!
What the labels of metrics tell of a request. Each attribute holds one fact, and the labels take few
of them; so requests that agree on these have the same labels, whatever else is asked for.
-/
namespace RequestTracing.Http

open AttributeName

/-- What the attributes of a request tell, each fact under its name. -/
def requestFacts (environ : Environ) (keepAllMethods : Bool) :
    List (String × Option AttributeValue) :=
  let text (value : Option String) : Option AttributeValue := value.map .text
  [(httpMethod,
      text ((environ.get? Variable.requestMethod).map (sanitizeMethod · keepAllMethods))),
    (httpServerName, text (environ.get? Variable.serverName)),
    (httpScheme, text (environ.get? Variable.urlScheme)),
    (netHostPort, (portNumber? environ Variable.serverPort).map .int),
    (httpHost, text (environ.get? Variable.httpHost)),
    (httpTarget, text (requestTarget? environ)),
    (httpUrl, text (if (requestTarget? environ).isSome then none
      else some (Url.removeCredentials (requestUrl environ)))),
    (netPeerIp, text (environ.getNonEmpty? Variable.remoteAddr)),
    (netPeerName, text (peerName? environ)),
    (httpUserAgent, text (environ.getNonEmpty? Variable.httpUserAgent)),
    (netPeerPort, (portNumber? environ Variable.remotePort).map .int),
    (httpFlavor, text (some (flavor (environ.getText Variable.serverProtocol)) |>.filter (· ≠ "")))]

def attributeNames : List String :=
  [httpMethod, httpServerName, httpScheme, netHostPort, httpHost, httpTarget, httpUrl, netPeerIp,
    netPeerName, httpUserAgent, netPeerPort, httpFlavor]

section Facts

variable (environ : Environ) (keepAllMethods : Bool)

theorem map_fst_requestFacts :
    (requestFacts environ keepAllMethods).map (·.1) = attributeNames := rfl

theorem requestAttributes_eq_foldl : requestAttributes environ keepAllMethods =
    (requestFacts environ keepAllMethods).foldl (fun d fact => d.insertSome fact.1 fact.2)
      .empty := by
  unfold requestAttributes requestFacts
  cases requestTarget? environ <;> rfl

theorem requestFacts_names : ((requestFacts environ keepAllMethods).map (·.1)).Nodup := by
  rw [map_fst_requestFacts]
  decide

variable {environ keepAllMethods}

theorem get?_requestAttributes {name : String} {fact : Option AttributeValue}
    (h : (name, fact) ∈ requestFacts environ keepAllMethods) :
    (requestAttributes environ keepAllMethods).get? name = fact := by
  rw [requestAttributes_eq_foldl,
    Dictionary.get?_foldl_insertSome_of_mem _ (requestFacts_names environ keepAllMethods) h,
    Dictionary.get?_empty]
  cases fact <;> rfl

theorem get?_requestAttributes_of_ne {name : String}
    (h : ∀ fact ∈ requestFacts environ keepAllMethods, fact.1 ≠ name) :
    (requestAttributes environ keepAllMethods).get? name = none := by
  rw [requestAttributes_eq_foldl, Dictionary.get?_foldl_insertSome_of_ne _ h,
    Dictionary.get?_empty]

end Facts

theorem get?_requestAttributes_congr {environ other : Environ} {keepAllMethods : Bool}
    {names : List String}
    (h : (requestFacts environ keepAllMethods).filter (names.contains ·.1) =
      (requestFacts other keepAllMethods).filter (names.contains ·.1))
    {name : String} (hname : name ∈ names) :
    (requestAttributes environ keepAllMethods).get? name =
      (requestAttributes other keepAllMethods).get? name := by
  have hsame (fact : Option AttributeValue) : (name, fact) ∈ requestFacts environ keepAllMethods ↔
      (name, fact) ∈ requestFacts other keepAllMethods := by
    have hfilter := congrArg ((name, fact) ∈ ·) h
    simpa [hname] using hfilter
  by_cases hfact : ∃ fact, (name, fact) ∈ requestFacts environ keepAllMethods
  · obtain ⟨fact, hfact⟩ := hfact
    rw [get?_requestAttributes hfact, get?_requestAttributes ((hsame fact).mp hfact)]
  · rw [get?_requestAttributes_of_ne, get?_requestAttributes_of_ne]
    · rintro ⟨_, fact⟩ hmem rfl
      exact hfact ⟨fact, (hsame fact).mpr hmem⟩
    · rintro ⟨_, fact⟩ hmem rfl
      exact hfact ⟨fact, hmem⟩

/-! ## The facts that labels show -/

/-- Whether a text is what a protocol has behind the name of HTTP, in any letter case, or all of a
protocol without it. -/
def IsVersionOf (protocol version : String) : Prop :=
  (∃ name, Text.lower name = "http/" ∧ protocol = name ++ version) ∨
    (∀ name rest, Text.lower name = "http/" → protocol ≠ name ++ rest) ∧ version = protocol

theorem flavor_append {name : String} (h : Text.lower name = "http/") (rest : String) :
    flavor (name ++ rest) = rest := by
  have hlower : name.toList.map Char.toLower = "http/".toList := by
    rw [← h, Text.lower, String.toList_ofList]
  have hlength : name.toList.length = 5 := by
    rw [← List.length_map (f := Char.toLower), hlower]
    rfl
  have htake : (name ++ rest).toList.take 5 = name.toList := by
    rw [String.toList_append, ← hlength, List.take_left]
  have hdrop : (name ++ rest).toList.drop 5 = rest.toList := by
    rw [String.toList_append, ← hlength, List.drop_left]
  simp only [flavor, htake, hlower, hdrop]
  exact String.ofList_toList

theorem flavor_of_unnamed {protocol : String}
    (h : ∀ name rest, Text.lower name = "http/" → protocol ≠ name ++ rest) :
    flavor protocol = protocol := by
  unfold flavor
  rw [if_neg]
  intro hlower
  refine h (.ofList (protocol.toList.take 5)) (.ofList (protocol.toList.drop 5)) ?_ ?_
  · rw [Text.lower, String.toList_ofList, hlower]
  · rw [← String.ofList_append, List.take_append_drop, String.ofList_toList]

theorem isVersionOf_iff {protocol version : String} :
    IsVersionOf protocol version ↔ version = flavor protocol := by
  constructor
  · rintro (⟨name, hname, rfl⟩ | ⟨hunnamed, rfl⟩)
    · exact (flavor_append hname version).symm
    · exact (flavor_of_unnamed hunnamed).symm
  · rintro rfl
    by_cases hnamed : ∃ name rest, Text.lower name = "http/" ∧ protocol = name ++ rest
    · obtain ⟨name, rest, hname, rfl⟩ := hnamed
      exact .inl ⟨name, hname, by rw [flavor_append hname]⟩
    · have hunnamed : ∀ name rest, Text.lower name = "http/" → protocol ≠ name ++ rest :=
        fun name rest hname heq => hnamed ⟨name, rest, hname, heq⟩
      exact .inr ⟨hunnamed, flavor_of_unnamed hunnamed⟩

/-- The variable of a port is read with white space around it left out; if it is empty there is no
number either. -/
theorem portNumber?_eq (environ : Environ) (key : String) :
    portNumber? environ key =
      (environ.get? key).bind fun port => Text.readInt64? (Text.trimChars port.toList) := by
  unfold portNumber? Environ.getNonEmpty?
  cases environ.get? key with
  | none => rfl
  | some port =>
    by_cases hempty : port = ""
    · subst hempty
      rfl
    · rw [Option.filter_some, if_pos (by simpa using hempty)]

/-- Whether requests agree on what the labels of active requests show. -/
structure AgreeOnLabels (keepAllMethods : Bool) (environ other : Environ) : Prop where
  serverName : environ.get? Variable.serverName = other.get? Variable.serverName
  scheme : environ.get? Variable.urlScheme = other.get? Variable.urlScheme
  host : environ.get? Variable.httpHost = other.get? Variable.httpHost
  version : ∃ version, IsVersionOf (environ.getText Variable.serverProtocol) version ∧
    IsVersionOf (other.getText Variable.serverProtocol) version
  method : (environ.get? Variable.requestMethod).map (sanitizeMethod · keepAllMethods) =
    (other.get? Variable.requestMethod).map (sanitizeMethod · keepAllMethods)

/-- Whether the variable of the server's port is the same number in both requests, or none in
both. -/
def AgreeOnPort (environ other : Environ) : Prop :=
  let port (environ : Environ) : Option Int := (environ.get? Variable.serverPort).bind fun port =>
    Text.readInt64? (Text.trimChars port.toList)
  port environ = port other

namespace AgreeOnLabels

variable {keepAllMethods : Bool} {environ other : Environ}
  (h : AgreeOnLabels keepAllMethods environ other)

include h

theorem flavor_eq : flavor (environ.getText Variable.serverProtocol) =
    flavor (other.getText Variable.serverProtocol) := by
  obtain ⟨version, hversion, hother⟩ := h.version
  rw [← isVersionOf_iff.mp hversion, ← isVersionOf_iff.mp hother]

theorem activeFacts_eq :
    (requestFacts environ keepAllMethods).filter (activeLabelNames.contains ·.1) =
      (requestFacts other keepAllMethods).filter (activeLabelNames.contains ·.1) := by
  have hfacts (environ : Environ) :
      (requestFacts environ keepAllMethods).filter (activeLabelNames.contains ·.1) =
        [(httpMethod, ((environ.get? Variable.requestMethod).map
            (sanitizeMethod · keepAllMethods)).map .text),
          (httpServerName, (environ.get? Variable.serverName).map .text),
          (httpScheme, (environ.get? Variable.urlScheme).map .text),
          (httpHost, (environ.get? Variable.httpHost).map .text),
          (httpFlavor, ((some (flavor (environ.getText Variable.serverProtocol))).filter
            (· ≠ "")).map .text)] := rfl
  rw [hfacts, hfacts, h.method, h.serverName, h.scheme, h.host, h.flavor_eq]

theorem durationFacts_eq (hport : AgreeOnPort environ other) :
    (requestFacts environ keepAllMethods).filter (durationLabelNames.contains ·.1) =
      (requestFacts other keepAllMethods).filter (durationLabelNames.contains ·.1) := by
  have hfacts (environ : Environ) :
      (requestFacts environ keepAllMethods).filter (durationLabelNames.contains ·.1) =
        [(httpMethod, ((environ.get? Variable.requestMethod).map
            (sanitizeMethod · keepAllMethods)).map .text),
          (httpServerName, (environ.get? Variable.serverName).map .text),
          (httpScheme, (environ.get? Variable.urlScheme).map .text),
          (netHostPort, (portNumber? environ Variable.serverPort).map .int),
          (httpHost, (environ.get? Variable.httpHost).map .text),
          (httpFlavor, ((some (flavor (environ.getText Variable.serverProtocol))).filter
            (· ≠ "")).map .text)] := rfl
  have hnumber : portNumber? environ Variable.serverPort =
      portNumber? other Variable.serverPort := by
    rw [portNumber?_eq, portNumber?_eq]
    exact hport
  rw [hfacts, hfacts, h.method, h.serverName, h.scheme, h.host, h.flavor_eq, hnumber]

end AgreeOnLabels

theorem project_congr {attributes other : Attributes} {names : List String}
    (h : ∀ name ∈ names, attributes.get? name = other.get? name) :
    attributes.project names = other.project names := by
  refine Dictionary.ext_get? fun name => ?_
  rw [Attributes.get?_project, Attributes.get?_project]
  by_cases hname : name ∈ names
  · rw [if_pos hname, if_pos hname, h name hname]
  · rw [if_neg hname, if_neg hname]

theorem get?_of_project {attributes : Attributes} {names : List String} {name : String}
    {value : AttributeValue} (h : (attributes.project names).get? name = some value) :
    attributes.get? name = some value := by
  rw [Attributes.get?_project] at h
  split at h
  · exact h
  · cases h

theorem activeLabels_durationLabels (attributes : Attributes) :
    activeLabels (durationLabels attributes) = activeLabels attributes := by
  refine project_congr fun name hname => ?_
  have hduration : name ∈ durationLabelNames := by
    revert name
    decide
  rw [durationLabels, Attributes.get?_project, if_pos hduration]

/-- Requests that agree on the server, the scheme, the host, the version of the protocol and the
method have the same labels of active requests, and with the same port also those of durations,
whatever else they are. Either labels are some of the attributes, and the labels of active requests
are among those of durations. -/
theorem labels_of_agreeing (keepAllMethods : Bool) :
    (∀ environ other : Environ, AgreeOnLabels keepAllMethods environ other →
      activeLabels (requestAttributes environ keepAllMethods) =
        activeLabels (requestAttributes other keepAllMethods) ∧
      (AgreeOnPort environ other →
        durationLabels (requestAttributes environ keepAllMethods) =
          durationLabels (requestAttributes other keepAllMethods))) ∧
    ∀ attributes : Attributes,
      activeLabels (durationLabels attributes) = activeLabels attributes ∧
      ∀ name value,
        ((activeLabels attributes).get? name = some value →
          attributes.get? name = some value) ∧
        ((durationLabels attributes).get? name = some value →
          attributes.get? name = some value) := by
  constructor
  · intro environ other hagree
    constructor
    · exact project_congr fun name => get?_requestAttributes_congr hagree.activeFacts_eq
    · intro hport
      exact project_congr fun name =>
        get?_requestAttributes_congr (hagree.durationFacts_eq hport)
  · intro attributes
    exact ⟨activeLabels_durationLabels attributes,
      fun name value => ⟨get?_of_project, get?_of_project⟩⟩

theorem labels_of_agreeing_elsewhere :
    let environ : Environ := .ofList [(Variable.requestMethod, "get"), (Variable.serverName, "a"),
      (Variable.serverProtocol, "hTTP/1.1"), (Variable.serverPort, " +080\u2003"),
      (Variable.pathInfo, "/secret"), (Variable.remoteAddr, "10.0.0.1")]
    let other : Environ := .ofList [(Variable.requestMethod, "GET"), (Variable.serverName, "a"),
      (Variable.serverProtocol, "1.1"), (Variable.serverPort, "80"),
      (Variable.requestUri, "/other?x"), (Variable.httpUserAgent, "agent")]
    AgreeOnLabels false environ other ∧ AgreeOnPort environ other ∧
      activeLabels (requestAttributes environ false) =
        activeLabels (requestAttributes other false) ∧
      durationLabels (requestAttributes environ false) =
        durationLabels (requestAttributes other false) := by
  intro environ other
  have hagree : AgreeOnLabels false environ other :=
    ⟨by decide, by decide, by decide,
      ⟨"1.1", isVersionOf_iff.mpr (by decide), isVersionOf_iff.mpr (by decide)⟩, by decide⟩
  have hport : AgreeOnPort environ other := by
    unfold AgreeOnPort
    decide
  obtain ⟨hactive, hduration⟩ := (labels_of_agreeing false).1 environ other hagree
  exact ⟨hagree, hport, hactive, hduration hport⟩

end RequestTracing.Http
