import RequestTracing.Proofs.Http.LabelFacts
import RequestTracing.Proofs.Url.Reread
/-!
Removal of credentials. The text that is left is read as the same URL without user name and
password, so nothing is left to remove; and no request shows credentials in its URL.
-/
namespace RequestTracing.Url

variable {s : String} {url : Url}

theorem hasCredentials_withoutCredentials (url : Url) :
    url.withoutCredentials.hasCredentials = false :=
  rfl

theorem hasCredentials_iff (url : Url) :
    url.hasCredentials = true ↔ url.username ≠ "" ∨ url.password ≠ none := by
  simp [hasCredentials, Option.ne_none_iff_isSome]

theorem hasCredentials_eq_false_iff (url : Url) :
    url.hasCredentials = false ↔ url.username = "" ∧ url.password = none := by
  simp [hasCredentials]

theorem IsNormal.dropped {host : Host} (h : url.IsNormal host) :
    url.dropUsername?.bind dropPassword? = some url.withoutCredentials := by
  have htakes {url : Url} (hscheme : url.scheme ≠ "file") (hhost : url.host = some host) :
      url.takesCredentials = true := by
    simp [takesCredentials, hscheme, hhost, h.notEmpty]
  have husername : url.dropUsername? = some { url with username := "" } :=
    if_pos (htakes h.notFile h.hasHost)
  have hpassword : dropPassword? { url with username := "" } = some url.withoutCredentials :=
    if_pos (htakes h.notFile h.hasHost)
  rw [husername, Option.bind_some, hpassword]

theorem removeCredentials_of_hasCredentials (h : parse? s = some url)
    (hcredentials : url.hasCredentials = true) :
    url.dropUsername?.bind dropPassword? = some url.withoutCredentials ∧
      parse? (removeCredentials s) = some url.withoutCredentials := by
  obtain ⟨host, hnormal⟩ := isNormal_of_parse? h hcredentials
  have hdropped := hnormal.dropped
  refine ⟨hdropped, ?_⟩
  have hremoved : removeCredentials s = url.withoutCredentials.text := by
    simp [removeCredentials, h, hcredentials, hdropped]
  rw [hremoved, hnormal.withoutCredentials.parse?_text url.hasCredentials_withoutCredentials]

theorem removeCredentials_eq_self (h : ∀ url ∈ parse? s, url.hasCredentials = false) :
    removeCredentials s = s := by
  unfold removeCredentials
  cases hparse : parse? s with
  | none => rfl
  | some url => simp [h url hparse]

theorem hasCredentials_removeCredentials (s : String) :
    ∀ url ∈ parse? (removeCredentials s), url.hasCredentials = false := by
  intro stripped hstripped
  by_cases hcredentials : ∃ url ∈ parse? s, url.hasCredentials = true
  · obtain ⟨url, hparse, hcredentials⟩ := hcredentials
    rw [(removeCredentials_of_hasCredentials hparse hcredentials).2] at hstripped
    obtain rfl := Option.some.inj hstripped
    exact url.hasCredentials_withoutCredentials
  · have hnone : ∀ url ∈ parse? s, url.hasCredentials = false := fun url hurl =>
      Bool.eq_false_iff.mpr fun h => hcredentials ⟨url, hurl, h⟩
    rw [removeCredentials_eq_self hnone] at hstripped
    exact hnone stripped hstripped

/-- A text that is a URL with a user name or a password becomes one that is read as the same URL
without them, and no setter refuses; any other text stays. So removing credentials once is enough,
and the URL of a request without a target shows none. -/
theorem parse?_removeCredentials :
    (∀ s : String,
      (∀ url, parse? s = some url → url.username ≠ "" ∨ url.password ≠ none →
        (url.dropUsername?.bind dropPassword?).isSome = true ∧
          parse? (removeCredentials s) = some { url with username := "", password := none }) ∧
      ((∀ url, parse? s = some url → url.username = "" ∧ url.password = none) →
        removeCredentials s = s) ∧
      removeCredentials (removeCredentials s) = removeCredentials s) ∧
    ∀ (environ : Environ) (keepAllMethods : Bool),
      environ.get? Variable.rawUri = none → environ.get? Variable.requestUri = none →
      ∃ text, (Http.requestAttributes environ keepAllMethods).get? AttributeName.httpUrl =
          some (.text text) ∧
        ∀ url, parse? text = some url → url.username = "" ∧ url.password = none := by
  constructor
  · intro s
    refine ⟨fun url hparse hcredentials => ?_, fun h => ?_, ?_⟩
    · obtain ⟨hdropped, hremoved⟩ := removeCredentials_of_hasCredentials hparse
        (url.hasCredentials_iff.mpr hcredentials)
      exact ⟨by rw [hdropped]; rfl, hremoved⟩
    · exact removeCredentials_eq_self fun url hparse =>
        url.hasCredentials_eq_false_iff.mpr (h url hparse)
    · exact removeCredentials_eq_self (hasCredentials_removeCredentials s)
  · intro environ keepAllMethods hraw hrequest
    have htarget : Http.requestTarget? environ = none := by
      simp [Http.requestTarget?, hraw, hrequest]
    refine ⟨removeCredentials (Http.requestUrl environ), ?_, fun url hparse => ?_⟩
    · have hfact : (AttributeName.httpUrl,
          some (.text (removeCredentials (Http.requestUrl environ)))) ∈
            Http.requestFacts environ keepAllMethods := by
        simp [Http.requestFacts, htarget]
      exact Http.get?_requestAttributes hfact
    · exact url.hasCredentials_eq_false_iff.mp
        (hasCredentials_removeCredentials (Http.requestUrl environ) url hparse)

theorem parse?_removeCredentials_signs :
    let special := "HTTPS:\\\\us%65r:p@q@[::1]:8443/a/../b?x@y#f"
    let stripped : Url :=
      { scheme := "https"
        host := some (.ipv6 [0, 0, 0, 0, 0, 0, 0, 1])
        port := some 8443
        path := "/b"
        query := some "x@y"
        fragment := some "f" }
    let other := "git://:@u@Host:9418/../a:b"
    let environ : Environ := .ofList [(Variable.urlScheme, "http"), (Variable.httpHost, "u:p@h"),
      (Variable.pathInfo, "/")]
    parse? special = some { stripped with username := "us%65r", password := some "p%40q" } ∧
    parse? (removeCredentials special) = some stripped ∧
    parse? (removeCredentials other) =
      some { scheme := "git", host := some (.name "Host"), port := some 9418, path := "/a:b" } ∧
    removeCredentials "not a url" = "not a url" ∧
    ∃ text, (Http.requestAttributes environ false).get? AttributeName.httpUrl =
        some (.text text) ∧
      ∀ url, parse? text = some url → url.username = "" ∧ url.password = none := by
  intro special stripped other environ
  have hspecial : parse? special =
      some { stripped with username := "us%65r", password := some "p%40q" } := by decide +kernel
  have hother : parse? other =
      some { scheme := "git", password := some "%40u", host := some (.name "Host"),
             port := some 9418, path := "/a:b" } := by decide +kernel
  have hplain : parse? "not a url" = none := by decide +kernel
  refine ⟨hspecial, ?_, ?_, ?_, ?_⟩
  · exact ((parse?_removeCredentials.1 special).1 _ hspecial (.inl (by decide))).2
  · exact ((parse?_removeCredentials.1 other).1 _ hother (.inr (by decide))).2
  · refine (parse?_removeCredentials.1 "not a url").2.1 fun url hurl => ?_
    rw [hplain] at hurl
    cases hurl
  · exact parse?_removeCredentials.2 environ false (by decide) (by decide)

end RequestTracing.Url
