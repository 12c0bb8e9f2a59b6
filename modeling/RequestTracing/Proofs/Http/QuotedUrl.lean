import RequestTracing.Proofs.Http.QuotedPath
import RequestTracing.Proofs.Text.ReadBack
/-!
The parts of the URL of a request. Its path is in percent encoding, stands for the bytes that the
variables are taken for, and ends where the query begins; so requests to one host are told apart by
their URLs.
-/
namespace RequestTracing.Http

def isPathChar (c : Char) : Bool :=
  c.isAlphanum || ['/', ';', '=', ',', '_', '.', '-', '~'].contains c

def isUpperHexChar (c : Char) : Bool :=
  c.isDigit || ('A' ≤ c && c ≤ 'F')

/-- Texts of characters that a path shows as they are and of percent signs with two upper-case
hexadecimal digits each. -/
inductive IsQuoted : List Char → Prop
  | nil : IsQuoted []
  | char {c : Char} {cs : List Char} (h : isPathChar c = true) (rest : IsQuoted cs) :
      IsQuoted (c :: cs)
  | triplet {high low : Char} {cs : List Char} (hhigh : isUpperHexChar high = true)
      (hlow : isUpperHexChar low = true) (rest : IsQuoted cs) : IsQuoted ('%' :: high :: low :: cs)

theorem isUpperHexChar_upperHexDigit {n : Nat} (h : n < 16) :
    isUpperHexChar (Text.upperHexDigit n) = true := by
  revert n
  decide

theorem isPathChar_of_isPathByte {b : UInt8} (h : isPathByte b = true) :
    isPathChar (Char.ofNat b.toNat) = true :=
  (Bool.and_eq_true_iff.mp h).2

theorem isQuoted_quotePath (path : List Char) : IsQuoted (quotePath path) := by
  unfold quotePath Text.percentEncode
  induction pathBytes path with
  | nil => exact .nil
  | cons b bytes ih =>
    rw [List.flatMap_cons]
    by_cases hb : isPathByte b = true
    · rw [if_pos hb]
      exact .char (isPathChar_of_isPathByte hb) ih
    · have hhigh : b.toNat / 16 < 16 := Nat.div_lt_of_lt_mul b.toNat_lt
      have hlow : b.toNat % 16 < 16 := Nat.mod_lt _ (by decide)
      rw [if_neg hb]
      exact .triplet (isUpperHexChar_upperHexDigit hhigh) (isUpperHexChar_upperHexDigit hlow) ih

theorem IsQuoted.not_mem {cs : List Char} (h : IsQuoted cs) : '?' ∉ cs := by
  induction h with
  | nil => exact List.not_mem_nil
  | @char c cs hc _ ih =>
    intro hmem
    rcases List.mem_cons.mp hmem with rfl | hmem
    · exact absurd hc (by decide)
    · exact ih hmem
  | @triplet high low cs hhigh hlow _ ih =>
    intro hmem
    rcases List.mem_cons.mp hmem with hsign | hmem
    · exact absurd hsign (by decide)
    rcases List.mem_cons.mp hmem with rfl | hmem
    · exact absurd hhigh (by decide)
    rcases List.mem_cons.mp hmem with rfl | hmem
    · exact absurd hlow (by decide)
    · exact ih hmem

/-- Characters of one byte as code points are told apart by the bytes that they are taken for. -/
theorem pathBytes_inj {path other : List Char} (hpath : ∀ c ∈ path, c.toNat < 0x100)
    (hother : ∀ c ∈ other, c.toNat < 0x100) (h : pathBytes path = pathBytes other) :
    path = other := by
  have hread {cs : List Char} (hcs : ∀ c ∈ cs, c.toNat < 0x100) :
      (pathBytes cs).map (fun b => Char.ofNat b.toNat) = cs := by
    induction cs with
    | nil => rfl
    | cons c cs ih =>
      obtain ⟨hc, hrest⟩ := List.forall_mem_cons.mp hcs
      have hbyte : (UInt8.ofNat c.toNat).toNat = c.toNat := by
        rw [UInt8.toNat_ofNat', Nat.mod_eq_of_lt hc]
      rw [pathBytes_cons, if_pos hc, List.map_append, ih hrest, List.map_singleton, hbyte,
        Char.ofNat_toNat, List.singleton_append]
  rw [← hread hpath, h, hread hother]

section Parts

variable (environ : Environ)

/-- Whether a text is the host in the URL of a request: the one that the client named, or else the
server's name, with its port unless that is empty or the one that the scheme implies. -/
def ShowsHost (host : String) : Prop :=
  (∀ name ∈ environ.getNonEmpty? Variable.httpHost, host = name) ∧
  (environ.getNonEmpty? Variable.httpHost = none →
    host = environ.getText Variable.serverName ++
      if environ.getText Variable.serverPort = "" ∨ environ.getText Variable.serverPort =
          (if requestScheme environ = "https" then "443" else "80") then ""
      else ":" ++ environ.getText Variable.serverPort)

/-- Whether a text is the path in the URL of a request: in percent encoding, and for the bytes of the
script's name and the path below it, or without a script for those of the path with one slash in
front. -/
def ShowsPath (path : List Char) : Prop :=
  let below := (environ.getText Variable.pathInfo).toList
  IsQuoted path ∧
  (∀ script ∈ environ.getNonEmpty? Variable.scriptName,
    Text.percentDecode path = pathBytes (script.toList ++ below)) ∧
  (environ.getNonEmpty? Variable.scriptName = none →
    Text.percentDecode path = pathBytes ('/' :: (Text.after? ['/'] below).getD below))

/-- Whether a text is the end of the URL of a request: the query after a question mark, if there is
one. -/
def ShowsQuery (query : String) : Prop :=
  (∀ text ∈ environ.getNonEmpty? Variable.queryString, query = "?" ++ text) ∧
  (environ.getNonEmpty? Variable.queryString = none → query = "")

variable {environ}

theorem getText_of_getNonEmpty?_eq_none {key : String} (h : environ.getNonEmpty? key = none) :
    environ.getText key = "" := by
  unfold Environ.getNonEmpty? at h
  unfold Environ.getText
  cases hget : environ.get? key with
  | none => rfl
  | some value => simpa [hget, Option.filter_some] using h

theorem getText_of_mem_getNonEmpty? {key value : String} (h : value ∈ environ.getNonEmpty? key) :
    environ.getText key = value ∧ value ≠ "" := by
  obtain ⟨hget, hvalue⟩ := Option.filter_eq_some_iff.mp h
  exact ⟨by rw [Environ.getText, hget, Option.getD_some], by simpa using hvalue⟩

variable (environ)

theorem showsHost_requestHost : ShowsHost environ (requestHost environ) := by
  refine ⟨fun name hname => ?_, fun hnone => ?_⟩
  · rw [requestHost, Option.mem_def.mp hname]
  · rw [requestHost, hnone]
    cases hport : environ.getNonEmpty? Variable.serverPort with
    | none => simp [getText_of_getNonEmpty?_eq_none hport]
    | some port =>
      obtain ⟨htext, hnonempty⟩ := getText_of_mem_getNonEmpty? hport
      have hdefault : (if requestScheme environ = "https" then "443" else "80") =
          defaultPort (requestScheme environ) := rfl
      simp only [htext, hnonempty, false_or, hdefault]
      by_cases himplied : port = defaultPort (requestScheme environ)
      · rw [if_pos himplied, if_pos himplied, String.append_empty]
      · rw [if_neg himplied, if_neg himplied, String.append_assoc]

theorem showsPath_quotePath : ShowsPath environ (quotePath (requestPath environ)) := by
  refine ⟨isQuoted_quotePath _, fun script hscript => ?_, fun hnone => ?_⟩
  · rw [percentDecode_quotePath, requestPath, Option.mem_def.mp hscript]
  · rw [percentDecode_quotePath, requestPath, hnone]
    generalize (environ.getText Variable.pathInfo).toList = path
    cases path with
    | nil => rfl
    | cons c path =>
      by_cases hc : c = '/'
      · simp [Text.after?, hc]
      · simp [Text.after?, hc, Ne.symm hc]

theorem showsQuery_requestQuery : ShowsQuery environ (requestQuery environ) := by
  refine ⟨fun text htext => ?_, fun hnone => ?_⟩
  · rw [requestQuery, Option.mem_def.mp htext]
  · rw [requestQuery, hnone]

variable {environ}

theorem ShowsHost.unique {host other : String} (h : ShowsHost environ host)
    (hother : ShowsHost environ other) : host = other := by
  cases hname : environ.getNonEmpty? Variable.httpHost with
  | none => rw [h.2 hname, hother.2 hname]
  | some name => rw [h.1 name hname, hother.1 name hname]

end Parts

/-- Whether the path of a request starts with a slash, has only characters of one byte as code
points, and is not below that of a script. -/
structure HasPlainPath (environ : Environ) : Prop where
  noScript : environ.getNonEmpty? Variable.scriptName = none
  slash : (environ.getText Variable.pathInfo).toList.head? = some '/'
  bytes : ∀ c ∈ (environ.getText Variable.pathInfo).toList, c.toNat < 0x100

theorem HasPlainPath.requestPath_eq {environ : Environ} (h : HasPlainPath environ) :
    requestPath environ = (environ.getText Variable.pathInfo).toList := by
  obtain ⟨rest, hrest⟩ := List.head?_eq_some_iff.mp h.slash
  simp [requestPath, h.noScript, hrest]

/-- The path and the query of a URL are found again where the first question mark stands. -/
theorem quotePath_requestQuery_inj {environ other : Environ}
    (h : quotePath (requestPath environ) ++ (requestQuery environ).toList =
      quotePath (requestPath other) ++ (requestQuery other).toList) :
    quotePath (requestPath environ) = quotePath (requestPath other) ∧
      requestQuery environ = requestQuery other := by
  have hpath (environ : Environ) : (quotePath (requestPath environ) ++
      (requestQuery environ).toList).takeWhile (· ≠ '?') = quotePath (requestPath environ) := by
    refine Text.takeWhile_append_stop (fun c hc => ?_) (fun c hc => ?_)
    · have hne : c ≠ '?' := fun heq => (isQuoted_quotePath _).not_mem (heq ▸ hc)
      simpa using hne
    · cases hquery : environ.getNonEmpty? Variable.queryString with
      | none => simp [requestQuery, hquery] at hc
      | some query =>
        have hmark : c = '?' := by simpa [requestQuery, hquery] using hc.symm
        simp [hmark]
  have hsame : quotePath (requestPath environ) = quotePath (requestPath other) := by
    rw [← hpath environ, h, hpath other]
  rw [hsame] at h
  exact ⟨hsame, String.toList_inj.mp (List.append_cancel_left h)⟩

theorem getText_queryString_of_requestQuery {environ other : Environ}
    (h : requestQuery environ = requestQuery other) :
    environ.getText Variable.queryString = other.getText Variable.queryString := by
  have htext (environ : Environ) : (requestQuery environ).toList.drop 1 =
      (environ.getText Variable.queryString).toList := by
    cases hquery : environ.getNonEmpty? Variable.queryString with
    | none => simp [requestQuery, hquery, getText_of_getNonEmpty?_eq_none hquery]
    | some query => simp [requestQuery, hquery, (getText_of_mem_getNonEmpty? hquery).1]
  exact String.toList_inj.mp (by rw [← htext environ, h, htext other])

theorem HasPlainPath.get?_pathInfo {environ : Environ} (h : HasPlainPath environ) :
    environ.get? Variable.pathInfo = some (environ.getText Variable.pathInfo) := by
  have hslash := h.slash
  unfold Environ.getText at hslash ⊢
  cases hget : environ.get? Variable.pathInfo with
  | none => simp [hget] at hslash
  | some path => rfl

/-- The URL of a request is its scheme, its host, a path in percent encoding for the bytes that the
variables are taken for, and its query. So among requests of one scheme and one host, with paths of
one byte a character and no scripts, those with the same URL have the same path and the same query. -/
theorem requestUrl_parts (environ : Environ) :
    ∃ host path query, requestUrl environ =
        requestScheme environ ++ "://" ++ host ++ String.ofList path ++ query ∧
      ShowsHost environ host ∧ ShowsPath environ path ∧ ShowsQuery environ query ∧
      ∀ other : Environ, requestScheme other = requestScheme environ → ShowsHost other host →
        HasPlainPath environ → HasPlainPath other → requestUrl other = requestUrl environ →
        other.get? Variable.pathInfo = environ.get? Variable.pathInfo ∧
          other.getText Variable.queryString = environ.getText Variable.queryString := by
  refine ⟨requestHost environ, quotePath (requestPath environ), requestQuery environ, rfl,
    showsHost_requestHost environ, showsPath_quotePath environ, showsQuery_requestQuery environ, ?_⟩
  intro other hscheme hhost hplain hotherPlain hurl
  have hsameHost : requestHost other = requestHost environ :=
    (showsHost_requestHost other).unique hhost
  have hend : quotePath (requestPath other) ++ (requestQuery other).toList =
      quotePath (requestPath environ) ++ (requestQuery environ).toList := by
    have hlists := congrArg String.toList hurl
    simp only [requestUrl, hscheme, hsameHost, String.toList_append, String.toList_ofList,
      List.append_assoc, List.append_cancel_left_eq] at hlists
    exact hlists
  obtain ⟨hpath, hquery⟩ := quotePath_requestQuery_inj hend
  have hbytes : pathBytes (requestPath other) = pathBytes (requestPath environ) := by
    rw [← percentDecode_quotePath, hpath, percentDecode_quotePath]
  rw [hplain.requestPath_eq, hotherPlain.requestPath_eq] at hbytes
  have hinfo := String.toList_inj.mp (pathBytes_inj hotherPlain.bytes hplain.bytes hbytes)
  refine ⟨?_, getText_queryString_of_requestQuery hquery⟩
  rw [hplain.get?_pathInfo, hotherPlain.get?_pathInfo, hinfo]

theorem requestUrl_parts_marked :
    let environ : Environ := .ofList [(Variable.httpHost, "h"), (Variable.pathInfo, "/a b?/é%"),
      (Variable.queryString, "")]
    let other : Environ := .ofList [(Variable.httpHost, "h"), (Variable.pathInfo, "/a b?/é%"),
      (Variable.serverPort, "8080")]
    requestUrl environ = "http://h/a%20b%3F/%E9%25" ∧ requestScheme other = requestScheme environ ∧
      HasPlainPath environ ∧ HasPlainPath other ∧ requestUrl other = requestUrl environ ∧
      ∃ host, ShowsHost environ host ∧ ShowsHost other host ∧
        other.get? Variable.pathInfo = environ.get? Variable.pathInfo ∧
        other.getText Variable.queryString = environ.getText Variable.queryString := by
  intro environ other
  have hplain : HasPlainPath environ :=
    ⟨by decide, by decide, Text.forall_mem_of_all (by decide)⟩
  have hotherPlain : HasPlainPath other :=
    ⟨by decide, by decide, Text.forall_mem_of_all (by decide)⟩
  have hurl : requestUrl environ = "http://h/a%20b%3F/%E9%25" := by decide +kernel
  have hotherUrl : requestUrl other = "http://h/a%20b%3F/%E9%25" := by decide +kernel
  obtain ⟨host, _, _, _, hhost, _, _, hsame⟩ := requestUrl_parts environ
  have hotherHost : ShowsHost other host := by
    rw [hhost.unique (showsHost_requestHost environ)]
    exact showsHost_requestHost other
  exact ⟨hurl, by decide, hplain, hotherPlain, hotherUrl.trans hurl.symm, host, hhost, hotherHost,
    hsame other (by decide) hotherHost hplain hotherPlain (hotherUrl.trans hurl.symm)⟩

end RequestTracing.Http
