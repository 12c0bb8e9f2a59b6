import RequestTracing.Http.RequestAttributes
/-!
The variables that the attributes of a request are read from. No other variable has any part in
them.
-/
namespace RequestTracing.Http

/-- The variables that the attributes of a request and the name of its span are read from. -/
def readVariables : List String :=
  [Variable.requestMethod, Variable.scriptName, Variable.pathInfo, Variable.queryString,
    Variable.serverName, Variable.serverPort, Variable.serverProtocol, Variable.urlScheme,
    Variable.rawUri, Variable.requestUri, Variable.remoteAddr, Variable.remoteHost,
    Variable.remotePort, Variable.httpHost, Variable.httpUserAgent]

variable {environ other : Environ}
  (h : ∀ key ∈ readVariables, environ.get? key = other.get? key) (keepAllMethods : Bool)

include h

theorem requestUrl_congr : requestUrl environ = requestUrl other := by
  simp only [readVariables, List.forall_mem_cons] at h
  obtain ⟨_, hscript, hpath, hquery, hname, hport, _, hscheme, _, _, _, _, _, hhost, _⟩ := h
  unfold requestUrl requestHost requestScheme requestPath requestQuery Environ.getNonEmpty?
    Environ.getText
  rw [hscript, hpath, hquery, hname, hport, hscheme, hhost]

theorem requestAttributes_congr :
    requestAttributes environ keepAllMethods = requestAttributes other keepAllMethods := by
  have hurl := requestUrl_congr h
  simp only [readVariables, List.forall_mem_cons] at h
  simp only [requestAttributes, requestTarget?, portNumber?, peerName?, Environ.getNonEmpty?,
    Environ.getText, hurl, h]

theorem spanName_congr : spanName environ keepAllMethods = spanName other keepAllMethods := by
  simp only [readVariables, List.forall_mem_cons] at h
  obtain ⟨hmethod, _, hpath, _⟩ := h
  unfold spanName Environ.getText
  rw [hmethod, hpath]

end RequestTracing.Http
