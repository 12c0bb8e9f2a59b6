import RequestTracing.Proofs.Http.HeaderVariables
import RequestTracing.Proofs.Http.HostPort
import RequestTracing.Proofs.Http.QuotedPath
import RequestTracing.Proofs.Http.UrlParts
/-!
The URL of a request that came in with a whole URL and names no host of its own. It has scheme,
host, port and query of the target; its path stands for that of the target unless the target has
encoded bytes or characters of two bytes in UTF-8 that are one byte as code points.
-/
namespace RequestTracing.Http

theorem requestScheme_environ (request : Incoming) (remote : Option SocketAddress) :
    requestScheme (request.environ remote) = request.uri.scheme.getD "http" := by
  have hscheme : (request.environ remote).get? Variable.urlScheme =
      some (request.uri.scheme.getD "http") :=
    request.get?_environ_of_mem_lineVariables remote (by simp [Incoming.lineVariables])
  rw [requestScheme, hscheme, Option.getD_some]

theorem defaultPort_eq (uri : Uri) :
    defaultPort (uri.scheme.getD "http") = .ofList (Nat.toDigits 10 uri.impliedPort) := by
  have hsame : uri.scheme.getD "http" = "https" ↔ uri.scheme = some "https" := by
    cases uri.scheme <;> simp
  simp only [defaultPort, Uri.impliedPort, hsame]
  split <;> decide

section Variables

variable {request : Incoming} (remote : Option SocketAddress) {authority : String}
  (hhost : ∀ header ∈ request.headers, Text.lower header.1 ≠ "host")
  (hauthority : request.uri.authority = some authority)

include hhost

theorem get?_environ_httpHost : (request.environ remote).get? Variable.httpHost = none := by
  have hvariable : Variable.httpHost = Variable.ofHeader "host" := by decide
  rw [request.get?_environ_of_isHeaderVariable remote _ rfl, Option.map_eq_none_iff, hvariable]
  refine List.find?_eq_none.mpr fun name hname htest => ?_
  rw [Bool.and_eq_true, decide_eq_true_iff] at htest
  obtain ⟨_, _, hsame⟩ := Incoming.headerVariable_eq (htest.1 ▸ Variable.header?_ofHeader "host")
  have hfolded : foldName name = "host" := by
    rw [(Variable.ofHeader_eq_iff name "host").mp (hsame.symm.trans htest.1)]
    decide
  have hhyphen : '-' ∉ (foldName name).toList := by
    rw [hfolded]
    decide
  obtain ⟨header, hheader, rfl⟩ :=
    List.mem_map.mp (List.mem_eraseDups.mp (List.mem_reverse.mp hname))
  exact hhost header hheader ((Text.exchange_eq_self hhyphen).symm.trans hfolded)

include hauthority

theorem serverVariables_eq : request.serverVariables =
    [(Variable.serverName, authorityHost authority),
      (Variable.serverPort, .ofList (Nat.toDigits 10 request.uri.effectivePort))] := by
  have hnone : request.hostAuthority? = none := by
    unfold Incoming.hostAuthority?
    rw [List.find?_eq_none.mpr]
    · rfl
    · intro header hheader heq
      refine hhost header hheader ?_
      rw [beq_iff_eq.mp heq]
      decide
  simp only [Incoming.serverVariables, hnone, hauthority, Uri.effectivePort, Option.getD_some]
  rfl

theorem requestHost_environ :
    (requestHost (request.environ remote)).toList =
      (authorityHost authority).toList ++
        portText request.uri.impliedPort request.uri.effectivePort := by
  have hname : (request.environ remote).get? Variable.serverName =
      some (authorityHost authority) :=
    request.get?_environ_of_mem_lineVariables remote
      (by simp [Incoming.lineVariables, serverVariables_eq hhost hauthority])
  have hport : (request.environ remote).get? Variable.serverPort =
      some (.ofList (Nat.toDigits 10 request.uri.effectivePort)) :=
    request.get?_environ_of_mem_lineVariables remote
      (by simp [Incoming.lineVariables, serverVariables_eq hhost hauthority])
  unfold requestHost Environ.getNonEmpty? Environ.getText
  rw [get?_environ_httpHost remote hhost, hname, hport, requestScheme_environ, defaultPort_eq]
  have hnonempty : String.ofList (Nat.toDigits 10 request.uri.effectivePort) ≠ "" := by
    simp [Nat.toDigits_ne_nil]
  simp only [Option.filter_none, Option.filter_some, hnonempty, ne_eq, not_false_eq_true,
    decide_true, if_true, Option.getD_some, String.ofList_inj, Text.toDigits_inj]
  unfold portText
  split <;> simp

end Variables

theorem Uri.IsDelimited.exists_shownPath {uri : Uri} (h : uri.IsDelimited)
    (hwhole : uri.scheme.isSome = true) : ∃ rest, uri.shownPath.toList = '/' :: rest := by
  unfold Uri.shownPath
  by_cases hempty : uri.path = ""
  · exact ⟨[], by simp [hempty, hwhole]⟩
  · rw [if_neg (by simp [hempty])]
    obtain ⟨c, rest, hpath⟩ := List.exists_cons_of_ne_nil (mt String.toList_eq_nil_iff.mp hempty)
    refine ⟨rest, ?_⟩
    rw [hpath, (h.whole hwhole).2 c (by simp [hpath])]

theorem requestPath_environ {request : Incoming} (remote : Option SocketAddress)
    {rest : List Char} (hpath : request.uri.shownPath.toList = '/' :: rest) :
    requestPath (request.environ remote) = request.uri.shownPath.toList := by
  have hinfo : (request.environ remote).get? Variable.pathInfo = some request.uri.shownPath :=
    request.get?_environ_of_mem_lineVariables remote (by simp [Incoming.lineVariables])
  have hscript : (request.environ remote).get? Variable.scriptName = some "" :=
    request.get?_environ_of_mem_lineVariables remote (by simp [Incoming.lineVariables])
  simp [requestPath, Environ.getText, Environ.getNonEmpty?, hinfo, hscript, hpath,
    Option.filter_some]

theorem requestQuery_environ (request : Incoming) (remote : Option SocketAddress) :
    (requestQuery (request.environ remote)).toList =
      Uri.queryText (request.uri.query.filter (· ≠ "")) := by
  have hquery : (request.environ remote).get? Variable.queryString =
      some (request.uri.query.getD "") :=
    request.get?_environ_of_mem_lineVariables remote (by simp [Incoming.lineVariables])
  rw [requestQuery, Environ.getNonEmpty?, hquery]
  cases request.uri.query with
  | none => simp [Uri.queryText, Option.filter_some]
  | some query =>
    by_cases hempty : query = "" <;> simp [hempty, Uri.queryText, Option.filter_some]

def Uri.rebuilt (uri : Uri) : Uri :=
  { uri with
    authority := some (uri.host ++ .ofList (portText uri.impliedPort uri.effectivePort))
    path := .ofList (quotePath uri.shownPath.toList)
    query := uri.query.filter (· ≠ "") }

section Whole

variable {uri : Uri} (huri : uri.IsDelimited) (hwhole : uri.scheme.isSome = true)
  (huser : ∀ authority ∈ uri.authority, '@' ∉ authority.toList)

include huser

theorem Uri.host_eq : uri.host = .ofList (hostChars (uri.authority.getD "").toList) := by
  refine authorityHost_eq ?_
  cases hauthority : uri.authority with
  | none => simp
  | some authority => exact huser authority hauthority

theorem Uri.authority_rebuilt : uri.rebuilt.authority = some (.ofList
    (hostChars (uri.authority.getD "").toList ++
      portText uri.impliedPort uri.effectivePort)) := by
  simp [Uri.rebuilt, Uri.host_eq huser]

theorem Uri.of_mem_authority_rebuilt {text : String} (htext : text ∈ uri.rebuilt.authority)
    {c : Char} (hc : c ∈ text.toList) :
    c ∈ (uri.authority.getD "").toList ∨ c = ']' ∨ c = ':' ∨ c.isDigit = true := by
  rw [Uri.authority_rebuilt huser] at htext
  obtain rfl := Option.some.inj htext
  rw [String.toList_ofList, List.mem_append] at hc
  rcases hc with hc | hc
  · exact (mem_hostChars hc).imp_right .inl
  · exact .inr (.inr (mem_portText hc))

theorem Uri.host_rebuilt : uri.rebuilt.host = uri.host := by
  have huser' : ∀ authority ∈ uri.rebuilt.authority, '@' ∉ authority.toList := by
    intro text htext hc
    rcases Uri.of_mem_authority_rebuilt huser htext hc with hc | hc | hc | hc
    · cases hauthority : uri.authority with
      | none => simp [hauthority] at hc
      | some authority => exact huser authority hauthority (by simpa [hauthority] using hc)
    · cases hc
    · cases hc
    · cases hc
  rw [Uri.host_eq huser, Uri.host_eq huser', Uri.authority_rebuilt huser, Option.getD_some,
    String.toList_ofList, hostChars_append_portText]

theorem Uri.effectivePort_rebuilt : uri.rebuilt.effectivePort = uri.effectivePort := by
  have hlt : uri.effectivePort < 65536 := by
    unfold Uri.effectivePort
    cases hport : authorityPort? (uri.authority.getD "") with
    | none =>
      rw [Option.getD_none, Uri.impliedPort]
      split <;> decide
    | some port => exact authorityPort?_lt hport
  have himplied : uri.rebuilt.impliedPort = uri.impliedPort := rfl
  rw [Uri.effectivePort, Uri.authority_rebuilt huser, Option.getD_some,
    authorityPort?_hostChars _ hlt, himplied]
  split
  · rename_i hsame
    rw [Option.getD_none, hsame]
  · rfl

include huri hwhole

theorem Uri.isDelimited_rebuilt : uri.rebuilt.IsDelimited := by
  have hauthority : ∀ c ∈ (uri.authority.getD "").toList, endsAuthority c = false := by
    cases hsome : uri.authority with
    | none => simp
    | some authority => exact huri.authority authority hsome
  constructor
  · intro text htext c hc
    rcases Uri.of_mem_authority_rebuilt huser htext hc with hc | rfl | rfl | hdigit
    · exact hauthority c hc
    · decide
    · decide
    · have hmark : ∀ mark : Char, mark.isDigit = false → c ≠ mark := by
        rintro mark hmark rfl
        exact Bool.false_ne_true (hmark.symm.trans hdigit)
      simp [endsAuthority, hmark]
  · intro c hc
    exact mem_quotePath (String.toList_ofList ▸ hc)
  · intro query hquery
    exact huri.query query (Option.filter_eq_some_iff.mp hquery).1
  · intro _
    obtain ⟨rest, hpath⟩ := huri.exists_shownPath hwhole
    refine ⟨rfl, fun c hc => ?_⟩
    simp only [Uri.rebuilt, hpath, quotePath_slash, String.toList_ofList] at hc
    exact (Option.some.inj hc).symm

end Whole

/-- The URL of a request divides into scheme, host, port and query of the target, if that is a whole
URL of the web without a user and no header names the host. Its path stands for the bytes that the
path of the target is taken for; these are what the path stands for just if nothing in it is encoded
and none of its characters has one byte as a code point and two in UTF-8. -/
theorem divide?_requestUrl {request : Incoming} (huri : request.uri.IsDelimited)
    (hweb : request.uri.scheme = some "http" ∨ request.uri.scheme = some "https")
    (huser : ∀ authority ∈ request.uri.authority, '@' ∉ authority.toList)
    (hhost : ∀ header ∈ request.headers, Text.lower header.1 ≠ "host")
    (remote : Option SocketAddress) :
    ∃ rebuilt, Uri.divide? (requestUrl (request.environ remote)).toList = some rebuilt ∧
      rebuilt.scheme = request.uri.scheme ∧ rebuilt.host = request.uri.host ∧
      rebuilt.effectivePort = request.uri.effectivePort ∧
      rebuilt.query.getD "" = request.uri.query.getD "" ∧
      Text.percentDecode rebuilt.path.toList = pathBytes request.uri.shownPath.toList ∧
      (Text.percentDecode rebuilt.path.toList =
          Text.percentDecode request.uri.shownPath.toList ↔
        ¬Text.HasTriplet request.uri.shownPath.toList ∧
          ∀ c ∈ request.uri.shownPath.toList, isHighByteChar c = false) := by
  have hwhole : request.uri.scheme.isSome = true := by rcases hweb with h | h <;> simp [h]
  obtain ⟨scheme, hscheme⟩ := Option.isSome_iff_exists.mp hwhole
  have hcolon : ':' ∉ scheme.toList := by
    rw [hscheme] at hweb
    rcases hweb with h | h <;> rw [Option.some.inj h] <;> decide
  obtain ⟨authority, hauthority⟩ := Option.isSome_iff_exists.mp (huri.whole hwhole).1
  obtain ⟨rest, hpath⟩ := huri.exists_shownPath hwhole
  have hurl : (requestUrl (request.environ remote)).toList =
      request.uri.rebuilt.spell scheme.toList [] := by
    have hstart : requestScheme (request.environ remote) = scheme := by
      rw [requestScheme_environ, hscheme, Option.getD_some]
    have hhostText := requestHost_environ remote hhost hauthority
    simp [requestUrl, Uri.spell, Uri.rebuilt, Uri.host, hstart, hhostText, hauthority,
      requestPath_environ remote hpath, requestQuery_environ]
  have hdelimited := Uri.isDelimited_rebuilt huri hwhole huser
  have hdecoded : Text.percentDecode request.uri.rebuilt.path.toList =
      pathBytes request.uri.shownPath.toList := by
    rw [Uri.rebuilt, String.toList_ofList, percentDecode_quotePath]
  refine ⟨request.uri.rebuilt, ?_, rfl, Uri.host_rebuilt huser, Uri.effectivePort_rebuilt huser,
    ?_, hdecoded, ?_⟩
  · rw [hurl, hdelimited.divide?_spell hwhole hcolon (by simp), String.ofList_toList, ← hscheme]
    rfl
  · unfold Uri.rebuilt
    cases request.uri.query with
    | none => rfl
    | some query => by_cases hempty : query = "" <;> simp [Option.filter_some, hempty]
  · rw [hdecoded]
    exact pathBytes_eq_percentDecode_iff _

theorem divide?_requestUrl_bracketed :
    let uri : Uri :=
      { scheme := some "https", authority := some "[::1]:08443"
        path := "/a(b)/ł", query := some "q" }
    let request : Incoming := { method := "GET", uri, headers := [("x-host", [104])] }
    Uri.read "HTTPS://[::1]:08443/a(b)/ł?q#f" = .ok uri ∧
      request.uri.scheme = some "https" ∧
      (∀ authority ∈ request.uri.authority, '@' ∉ authority.toList) ∧
      (∀ header ∈ request.headers, Text.lower header.1 ≠ "host") ∧
      ∃ rebuilt, Uri.divide? (requestUrl (request.environ none)).toList = some rebuilt ∧
        rebuilt.scheme = some "https" ∧ rebuilt.host = "[::1]" ∧ rebuilt.effectivePort = 8443 ∧
        rebuilt.query.getD "" = "q" ∧
        Text.percentDecode rebuilt.path.toList = Text.percentDecode "/a(b)/ł".toList := by
  intro uri request
  have hread : Uri.read "HTTPS://[::1]:08443/a(b)/ł?q#f" = .ok uri := by cbv
  have huser : ∀ authority ∈ request.uri.authority, '@' ∉ authority.toList := by
    rintro _ ⟨⟩
    decide
  have hhost : ∀ header ∈ request.headers, Text.lower header.1 ≠ "host" := by decide
  have hplain : ¬Text.HasTriplet request.uri.shownPath.toList := fun h => absurd h.mem (by decide)
  have hchars : ∀ c ∈ request.uri.shownPath.toList, isHighByteChar c = false := by
    simp [request, uri, Uri.shownPath, isHighByteChar]
  obtain ⟨rebuilt, hdivide, hscheme, hname, hport, hquery, _, hpath⟩ :=
    divide?_requestUrl (Uri.isReadOf_of_read hread).isDelimited (.inr rfl) huser hhost none
  exact ⟨hread, rfl, huser, hhost, rebuilt, hdivide, hscheme, hname.trans (by decide),
    hport.trans (by decide), hquery, hpath.mpr ⟨hplain, hchars⟩⟩

/-- An encoded byte in a target is encoded once more in the URL. -/
theorem requestUrl_encodedTwice :
    let request : Incoming :=
      { method := "GET", uri := { scheme := some "http", authority := some "h", path := "/a%20b" } }
    Uri.read "http://h/a%20b" = .ok request.uri ∧
      requestUrl (request.environ none) = "http://h/a%2520b" ∧
      ∀ rebuilt ∈ Uri.divide? (requestUrl (request.environ none)).toList,
        Text.percentDecode rebuilt.path.toList ≠
          Text.percentDecode request.uri.shownPath.toList := by
  intro request
  have hread : Uri.read "http://h/a%20b" = .ok request.uri := by cbv
  have hurl : requestUrl (request.environ none) = "http://h/a%2520b" := by decide +kernel
  refine ⟨hread, hurl, ?_⟩
  rw [hurl]
  decide +kernel

end RequestTracing.Http
