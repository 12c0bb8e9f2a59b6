import RequestTracing.Proofs.Http.HeaderVariables
import RequestTracing.Proofs.Http.HostPort
/-!
What each variable of a request is taken from: the variables of headers from the headers with those
variables, and the others from the request line and from three headers that no other can stand for.
-/
namespace RequestTracing.Http.Incoming

variable {request other : Incoming} {key name rest : String}

section Headers

/-- Whether a name is the last of the headers with a variable, in the order in which the names first
occur. -/
structure IsLastHeader (request : Incoming) (key name : String) : Prop where
  hasHeader : request.HasHeader name
  variable_eq : Variable.ofHeader name = key
  isLast : ∃ before after, request.headerNames = before ++ name :: after ∧
    ∀ later ∈ after, request.HasHeader later → Variable.ofHeader later ≠ key

theorem bearer?_eq_some_iff (hkey : Variable.header? key = some rest) :
    request.bearer? key = some name ↔ request.IsLastHeader key name := by
  constructor
  · intro h
    obtain ⟨rfl, hreadable, before, after, hnames, hafter⟩ := request.bearer?_eq_some key h
    obtain ⟨htype, hlength, hsame⟩ := Incoming.headerVariable_eq hkey
    refine ⟨⟨by simp [hnames], htype, hlength, hreadable⟩, hsame.symm, before, after, hnames, ?_⟩
    intro later hlater hhas heq
    exact hhas.readable (hafter later hlater (hhas.headerVariable_eq.trans heq))
  · intro h
    obtain ⟨before, after, hnames, hafter⟩ := h.isLast
    refine List.find?_eq_some_iff_append.mpr ⟨?_, after.reverse, before.reverse, by simp [hnames], ?_⟩
    · simp [h.hasHeader.headerVariable_eq, h.variable_eq, h.hasHeader.readable]
    · intro later hlater
      have hmem := List.mem_reverse.mp hlater
      by_cases hvariable : headerVariable later = key
      · by_cases hreadable : request.readableValues later = []
        · simp [hreadable]
        · obtain ⟨htype, hlength, hsame⟩ := Incoming.headerVariable_eq (hvariable ▸ hkey)
          exact absurd (hsame.symm.trans hvariable)
            (hafter later hmem ⟨by simp [hnames, hmem], htype, hlength, hreadable⟩)
      · simp [hvariable]

/-- The variable of a header holds the readable values of the last one with that variable. -/
theorem get?_environ_eq_some_iff_isLastHeader (hkey : Variable.header? key = some rest)
    (remote : Option SocketAddress) {value : String} :
    (request.environ remote).get? key = some value ↔
      ∃ name, request.IsLastHeader key name ∧
        ",".intercalate (request.readableValues name) = value := by
  rw [request.get?_environ_of_isHeaderVariable remote key (isHeaderVariable_of_header? hkey),
    Option.map_eq_some_iff]
  simp only [bearer?_eq_some_iff hkey]

/-- There is a variable under the common start for each header but the two that describe the
content. -/
theorem isSome_get?_environ_iff (hkey : Variable.header? key = some rest)
    (remote : Option SocketAddress) :
    ((request.environ remote).get? key).isSome = true ↔
      ∃ name, request.HasHeader name ∧ Variable.ofHeader name = key := by
  rw [← Dictionary.mem_keys_iff]
  constructor
  · exact exists_hasHeader remote hkey
  · rintro ⟨name, hname, rfl⟩
    obtain ⟨_, _, _, _, _, _, _, hvalue⟩ := hname.get?_environ remote
    rw [Dictionary.mem_keys_iff, hvalue]
    rfl

theorem mem_headerNames_of_readableValues (h : request.readableValues name ≠ []) :
    name ∈ request.headerNames := by
  obtain ⟨value, hvalue⟩ := List.exists_mem_of_ne_nil _ h
  obtain ⟨⟨written, bytes⟩, hheader, hread⟩ := List.mem_filterMap.mp hvalue
  unfold headerNames
  rw [List.mem_eraseDups]
  by_cases hname : written = name
  · exact hname ▸ List.mem_map_of_mem hheader
  · simp [hname] at hread

/-- The variable of a header that no other shares holds its readable values. -/
theorem get?_environ_of_unshared (hshared : ∀ other, headerVariable other = key ↔ other = name)
    (remote : Option SocketAddress) :
    (request.environ remote).get? key =
      if request.readableValues name = [] then none
      else some (",".intercalate (request.readableValues name)) := by
  have hvariable := (hshared name).mpr rfl
  rw [request.get?_environ_of_isHeaderVariable remote key
    (hvariable ▸ isHeaderVariable_headerVariable name)]
  by_cases hreadable : request.readableValues name = []
  · rw [if_pos hreadable, Option.map_eq_none_iff]
    cases hbearer : request.bearer? key with
    | none => rfl
    | some bearer =>
      obtain ⟨hbears, hvalues, _⟩ := request.bearer?_eq_some key hbearer
      rw [(hshared bearer).mp hbears] at hvalues
      exact absurd hreadable hvalues
  · obtain ⟨bearer, hbearer⟩ :=
      request.exists_bearer? (mem_headerNames_of_readableValues hreadable) hreadable
    rw [hvariable] at hbearer
    rw [if_neg hreadable, hbearer, Option.map_some,
      (hshared bearer).mp (request.bearer?_eq_some key hbearer).1]

def contentVariables : List (String × String) :=
  [("content-type", Variable.contentType), ("content-length", Variable.contentLength)]

theorem eq_of_mem_contentVariables :
    ∀ entry ∈ contentVariables, ∀ other ∈ contentVariables, other.2 = entry.2 → other = entry := by
  decide

theorem header?_of_mem_contentVariables :
    ∀ entry ∈ contentVariables, Variable.header? entry.2 = none := by
  decide

/-- The variables of headers that are not under the common start are those of the content. -/
theorem headerVariable_eq_iff (hkey : Variable.header? key = none) :
    headerVariable name = key ↔ (name, key) ∈ contentVariables := by
  constructor
  · rintro rfl
    unfold headerVariable at hkey ⊢
    by_cases htype : name = "content-type"
    · simp [contentVariables, htype]
    · by_cases hlength : name = "content-length"
      · simp [contentVariables, hlength]
      · rw [if_neg htype, if_neg hlength, Variable.header?_ofHeader] at hkey
        cases hkey
  · intro h
    simp only [contentVariables, List.mem_cons, List.not_mem_nil, or_false] at h
    rcases h with h | h
    all_goals
      obtain ⟨rfl, rfl⟩ := Prod.mk.inj h
      rfl

theorem get?_environ_content (h : (name, key) ∈ contentVariables)
    (remote : Option SocketAddress) :
    (request.environ remote).get? key =
      if request.readableValues name = [] then none
      else some (",".intercalate (request.readableValues name)) := by
  apply get?_environ_of_unshared
  intro other
  rw [headerVariable_eq_iff (header?_of_mem_contentVariables _ h)]
  constructor
  · intro hother
    exact congrArg Prod.fst (eq_of_mem_contentVariables _ h _ hother rfl)
  · rintro rfl
    exact h

end Headers

section Server

/-- Whether the first header of the host is readable and an authority. -/
def GivesHost (request : Incoming) (authority : String) : Prop :=
  ∃ header host, request.headers.find? (·.1 == "host") = some header ∧
    readableValue? header.2 = some host ∧ readAuthority host.toList = .ok authority

/-- Whether an authority is that of the server: that of the host header, or else that of the
target. -/
def GivesServer (request : Incoming) (authority : String) : Prop :=
  request.GivesHost authority ∨
    (∀ host, ¬ request.GivesHost host) ∧ request.uri.authority = some authority

variable {authority : String}

theorem hostAuthority?_eq_some_iff :
    request.hostAuthority? = some authority ↔ request.GivesHost authority := by
  have hread (cs : List Char) :
      (readAuthority cs).toOption = some authority ↔ readAuthority cs = .ok authority := by
    cases readAuthority cs <;> simp [Except.toOption]
  unfold hostAuthority? GivesHost
  simp only [Option.bind_eq_bind, Option.bind_eq_some_iff, hread]
  constructor
  · rintro ⟨header, hheader, host, hhost, hauthority⟩
    exact ⟨header, host, hheader, hhost, hauthority⟩
  · rintro ⟨header, host, hheader, hhost, hauthority⟩
    exact ⟨header, hheader, host, hhost, hauthority⟩

theorem serverAuthority_eq_some_iff :
    (request.hostAuthority? <|> request.uri.authority) = some authority ↔
      request.GivesServer authority := by
  unfold GivesServer
  simp only [← hostAuthority?_eq_some_iff]
  cases request.hostAuthority? with
  | none => simp
  | some host => simp

theorem serverPort_lt (authority : String) (uri : Uri) :
    (authorityPort? authority).getD uri.impliedPort < 65536 := by
  cases hport : authorityPort? authority with
  | some port => exact authorityPort?_lt hport
  | none =>
    unfold Uri.impliedPort
    rw [Option.getD_none]
    split <;> decide

theorem get?_environ_eq_none_of_serverVariables (hnone : request.serverVariables = [])
    (remote : Option SocketAddress) (hkey : key = Variable.serverName ∨ key = Variable.serverPort) :
    (request.environ remote).get? key = none := by
  have hother : ∀ pair ∈ request.lineVariables ++ peerVariables remote,
      pair.1 ≠ Variable.serverName ∧ pair.1 ≠ Variable.serverPort := by
    have hkeys : ∀ key ∈ (request.lineVariables ++ peerVariables remote).map (·.1),
        key ≠ Variable.serverName ∧ key ≠ Variable.serverPort := by
      unfold lineVariables peerVariables
      rw [hnone]
      cases request.uri.target? <;> cases remote <;>
        simp only [List.map_append, List.map_cons, List.map_nil, Option.toList] <;> decide
    exact fun pair hpair => hkeys pair.1 (List.mem_map_of_mem hpair)
  have hheader : isHeaderVariable key = false := by
    rcases hkey with rfl | rfl <;> decide
  rw [Option.eq_none_iff_forall_ne_some]
  intro value hvalue
  obtain ⟨hname, hport⟩ := hother _ ((request.get?_environ_eq_some_iff remote hheader).mp hvalue)
  rcases hkey with rfl | rfl
  · exact hname rfl
  · exact hport rfl

/-- The name and the port of the server are those of its authority, the port in decimal; without one
they are both absent. -/
theorem get?_environ_server (request : Incoming) (remote : Option SocketAddress) :
    (∀ authority, request.GivesServer authority →
      (request.environ remote).get? Variable.serverName = some (authorityHost authority) ∧
      ∃ port : Nat, port = (authorityPort? authority).getD request.uri.impliedPort ∧ port < 65536 ∧
        (request.environ remote).get? Variable.serverPort = some (Text.decimal port)) ∧
    ((∀ authority, ¬ request.GivesServer authority) →
      (request.environ remote).get? Variable.serverName = none ∧
        (request.environ remote).get? Variable.serverPort = none) := by
  simp only [← serverAuthority_eq_some_iff]
  constructor
  · intro authority hserver
    have hvariables : request.serverVariables =
        [(Variable.serverName, authorityHost authority),
          (Variable.serverPort, Text.decimal
            ((authorityPort? authority).getD request.uri.impliedPort : Nat))] := by
      unfold serverVariables
      rw [hserver]
    have hmem (pair : String × String) (hpair : pair ∈ request.serverVariables) :
        (request.environ remote).get? pair.1 = some pair.2 :=
      get?_environ_of_mem_lineVariables remote (List.mem_append_right _ hpair)
    simp only [hvariables, List.forall_mem_cons] at hmem
    obtain ⟨hname, hport, _⟩ := hmem
    exact ⟨hname, _, rfl, serverPort_lt authority request.uri, hport⟩
  · intro hserver
    have hnone : request.serverVariables = [] := by
      unfold serverVariables
      rw [Option.eq_none_iff_forall_ne_some.mpr hserver]
    exact ⟨get?_environ_eq_none_of_serverVariables hnone remote (.inl rfl),
      get?_environ_eq_none_of_serverVariables hnone remote (.inr rfl)⟩

end Server

section Frame

def describingHeaders : List String :=
  "host" :: contentVariables.map (·.1)

/-- Whether requests differ in nothing but headers that describe neither the host nor the content. -/
structure SameButOthers (request other : Incoming) : Prop where
  method : other.method = request.method
  uri : other.uri = request.uri
  version : other.version = request.version
  headers : other.headers.filter (fun header => describingHeaders.contains header.1) =
    request.headers.filter fun header => describingHeaders.contains header.1

namespace SameButOthers

variable (h : request.SameButOthers other)

include h

theorem readableValues_eq (hname : name ∈ describingHeaders) :
    other.readableValues name = request.readableValues name := by
  have hfilter (r : Incoming) : r.readableValues name =
      (r.headers.filter fun header => describingHeaders.contains header.1).filterMap
        fun header => if header.1 = name then readableValue? header.2 else none := by
    unfold readableValues
    rw [List.filterMap_filter]
    apply List.filterMap_congr
    rintro ⟨n, value⟩ _
    by_cases hsame : n = name
    · simp [hsame, hname]
    · simp [hsame]
  rw [hfilter, hfilter, h.headers]

theorem hostAuthority?_eq : other.hostAuthority? = request.hostAuthority? := by
  have hfilter (r : Incoming) : (r.headers.find? fun header => header.1 == "host") =
      (r.headers.filter fun header => describingHeaders.contains header.1).find?
        fun header => header.1 == "host" := by
    rw [List.find?_filter]
    congr 1
    funext header
    by_cases hhost : header.1 = "host"
    · simp [hhost, describingHeaders]
    · simp [hhost]
  unfold hostAuthority?
  rw [hfilter, hfilter, h.headers]

theorem lineVariables_eq : other.lineVariables = request.lineVariables := by
  unfold lineVariables serverVariables
  rw [h.hostAuthority?_eq, h.method, h.uri, h.version]

theorem get?_environ_eq (hkey : Variable.header? key = none) (remote : Option SocketAddress) :
    (other.environ remote).get? key = (request.environ remote).get? key := by
  by_cases hcontent : ∃ name, (name, key) ∈ contentVariables
  · obtain ⟨name, hname⟩ := hcontent
    rw [get?_environ_content hname, get?_environ_content hname,
      h.readableValues_eq (List.mem_cons_of_mem _ (List.mem_map_of_mem hname))]
  · have hheader : isHeaderVariable key = false := by
      rw [Bool.eq_false_iff]
      intro htrue
      apply hcontent
      simp only [isHeaderVariable, hkey, Option.isSome_none, Bool.false_or, Bool.or_eq_true,
        decide_eq_true_eq] at htrue
      rcases htrue with rfl | rfl
      · exact ⟨"content-type", by decide⟩
      · exact ⟨"content-length", by decide⟩
    ext value
    rw [other.get?_environ_eq_some_iff remote hheader,
      request.get?_environ_eq_some_iff remote hheader, h.lineVariables_eq]

end SameButOthers

end Frame

/-- A variable under the common start is there just if a header has it, and holds the readable
values of the last such header. The headers of the content have variables of their own, the server
is named by its authority alone, and no other header has a part in the variables outside the common
start. -/
theorem environ_variables (request : Incoming) (remote : Option SocketAddress) :
    let environ := request.environ remote
    (∀ key rest, key = Variable.headerStart ++ rest →
      ((environ.get? key).isSome = true ↔
        ∃ name, request.HasHeader name ∧ Variable.ofHeader name = key) ∧
      ∀ value, environ.get? key = some value ↔ ∃ name, request.IsLastHeader key name ∧
        ",".intercalate (request.readableValues name) = value) ∧
    (∀ name key, (name, key) ∈ contentVariables →
      environ.get? key = if request.readableValues name = [] then none
        else some (",".intercalate (request.readableValues name))) ∧
    (∀ authority, request.GivesServer authority →
      environ.get? Variable.serverName = some (authorityHost authority) ∧
      ∃ port : Nat, port = (authorityPort? authority).getD request.uri.impliedPort ∧ port < 65536 ∧
        environ.get? Variable.serverPort = some (Text.decimal port)) ∧
    ((∀ authority, ¬ request.GivesServer authority) →
      environ.get? Variable.serverName = none ∧ environ.get? Variable.serverPort = none) ∧
    ∀ other : Incoming, request.SameButOthers other →
      ∀ key, (∀ rest, key ≠ Variable.headerStart ++ rest) →
        (other.environ remote).get? key = environ.get? key := by
  intro environ
  refine ⟨?_, fun name key hentry => get?_environ_content hentry remote,
    (request.get?_environ_server remote).1, (request.get?_environ_server remote).2, ?_⟩
  · intro key rest hkey
    have hheader := Variable.header?_eq_some_iff.mpr hkey
    exact ⟨isSome_get?_environ_iff hheader remote,
      fun value => get?_environ_eq_some_iff_isLastHeader hheader remote⟩
  · intro other hother key hkey
    apply hother.get?_environ_eq
    rw [Option.eq_none_iff_forall_ne_some]
    intro rest hrest
    exact hkey rest (Variable.header?_eq_some_iff.mp hrest)

theorem environ_variables_shared :
    let request : Incoming :=
      { method := "GET"
        uri := { scheme := some "https", authority := some "u@api.example:8443", path := "/a" }
        headers := [("host", [0x61, 0xFF]), ("x-a", [0x31]), ("x_a", [0x32]), ("x-a", [0x33]),
          ("content-type", [0x34]), ("content-type", [0xFF])] }
    let other : Incoming :=
      { request with headers := [("host", [0x61, 0xFF]), ("server_name", [0x31]),
          ("content-type", [0x34]), ("content_type", [0x31]), ("content-type", [0xFF])] }
    let environ := request.environ none
    request.IsLastHeader "HTTP_X_A" "x_a" ∧ environ.get? "HTTP_X_A" = some "2" ∧
      environ.get? Variable.contentType = some "4" ∧
      request.GivesServer "u@api.example:8443" ∧
      environ.get? Variable.serverName = some "api.example" ∧
      environ.get? Variable.serverPort = some "8443" ∧
      request.SameButOthers other ∧
      (other.environ none).get? Variable.contentType = environ.get? Variable.contentType ∧
      (other.environ none).get? Variable.serverName = environ.get? Variable.serverName := by
  intro request other environ
  have hlast : request.IsLastHeader "HTTP_X_A" "x_a" := by
    refine ⟨⟨by decide, by decide, by decide, by decide⟩, by decide, ["host", "x-a"],
      ["content-type"], by decide, ?_⟩
    intro later hlater hhas _
    exact absurd (List.mem_singleton.mp hlater) hhas.notType
  have hserver : request.GivesServer "u@api.example:8443" := by
    have hhost : request.hostAuthority? = none := by decide
    refine .inr ⟨fun host => ?_, rfl⟩
    rw [← hostAuthority?_eq_some_iff, hhost]
    simp
  have hother : request.SameButOthers other := ⟨rfl, rfl, rfl, by decide⟩
  have houtside (key : String) (hkey : Variable.header? key = none) (rest : String) :
      key ≠ Variable.headerStart ++ rest := by
    intro heq
    rw [Variable.header?_eq_some_iff.mpr heq] at hkey
    cases hkey
  obtain ⟨hheaders, hcontent, hgiven, _, hframe⟩ := environ_variables request none
  obtain ⟨hname, port, hport, _, htext⟩ := hgiven _ hserver
  exact ⟨hlast, ((hheaders _ "X_A" (by decide)).2 _).mpr ⟨_, hlast, by decide⟩,
    (hcontent "content-type" _ (by decide)).trans (by decide), hserver,
    hname.trans (by decide), htext.trans (by rw [hport]; decide), hother,
    hframe other hother _ (houtside _ (by decide)),
    hframe other hother _ (houtside _ (by decide))⟩

end RequestTracing.Http.Incoming
