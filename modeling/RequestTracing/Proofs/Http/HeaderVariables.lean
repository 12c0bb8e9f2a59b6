import RequestTracing.Http.Incoming
import RequestTracing.Proofs.Dictionary.Lookup
import RequestTracing.Proofs.Header.Spelling
import RequestTracing.Proofs.Text.ReadBack
/-!
What the variables of a request hold. A variable of a header holds the readable values of the name
that was first seen latest among those with that variable; the other variables depend on no header
but the host.
-/
namespace RequestTracing

theorem Variable.header?_eq_some_iff {key rest : String} :
    header? key = some rest ↔ key = headerStart ++ rest := by
  constructor
  · intro h
    obtain ⟨cs, hcs, rfl⟩ := Option.map_eq_some_iff.mp h
    rw [← String.toList_inj, String.toList_append, String.toList_ofList,
      Text.append_of_after?_eq_some hcs]
  · rintro rfl
    simp [header?, headerStart, Text.after?]

/-- What follows the common start in the variable of a header is its name as it is spelled there. -/
theorem Variable.header?_ofHeader (name : String) :
    header? (ofHeader name) = some (.ofList (name.toList.map variableChar)) :=
  header?_eq_some_iff.mpr (ofHeader_eq name)

theorem Dictionary.get?_ofList_eq_some_iff {α : Type} {pairs : List (String × α)}
    (h : (pairs.map (·.1)).Nodup) {key : String} {value : α} :
    (ofList pairs).get? key = some value ↔ (key, value) ∈ pairs := by
  rw [get?_ofList, Option.map_eq_some_iff]
  refine ⟨?_, fun hmem => ?_⟩
  · rintro ⟨pair, hfound, rfl⟩
    have hkey : pair.1 = key := by simpa using List.find?_some hfound
    exact hkey ▸ List.mem_reverse.mp (List.mem_of_find?_eq_some hfound)
  · have hsome : (pairs.reverse.find? fun pair => pair.1 == key).isSome = true :=
      List.find?_isSome.mpr ⟨(key, value), List.mem_reverse.mpr hmem, by simp⟩
    obtain ⟨pair, hfound⟩ := Option.isSome_iff_exists.mp hsome
    have hkey : pair.1 = key := by simpa using List.find?_some hfound
    have hpair := List.mem_reverse.mp (List.mem_of_find?_eq_some hfound)
    have hsame : pair = (key, value) := List.inj_on_of_nodup_map h hpair hmem hkey
    exact ⟨pair, hfound, by rw [hsame]⟩

namespace Http.Incoming

variable (request : Incoming) (remote : Option SocketAddress) (key : String)

/-- The variables of a request that no header gives but the host: those in front of the headers. -/
def lineVariables : List (String × String) :=
  [(Variable.requestMethod, request.method), (Variable.scriptName, ""),
    (Variable.pathInfo, request.uri.shownPath), (Variable.queryString, request.uri.query.getD ""),
    (Variable.serverProtocol, request.version.text),
    (Variable.urlScheme, request.uri.scheme.getD "http")] ++
  (request.uri.target?.toList.map fun target => (Variable.requestUri, target)) ++
  request.serverVariables

def peerVariables (remote : Option SocketAddress) : List (String × String) :=
  match remote with
  | some remote =>
    [(Variable.remoteAddr, remote.ip.text), (Variable.remotePort, Text.decimal remote.port)]
  | none => []

theorem environ_eq : request.environ remote =
    .ofList (request.lineVariables ++ request.headerVariables ++ peerVariables remote) := rfl

/-- The name whose values a variable of a header holds: of the names with that variable and with
readable values, the one that was first seen latest. -/
def bearer? : Option String :=
  request.headerNames.reverse.find? fun name =>
    headerVariable name = key && request.readableValues name ≠ []

theorem bearer?_eq_some {name : String} (h : request.bearer? key = some name) :
    headerVariable name = key ∧ request.readableValues name ≠ [] ∧
      ∃ before after, request.headerNames = before ++ name :: after ∧
        ∀ later ∈ after, headerVariable later = key → request.readableValues later = [] := by
  obtain ⟨hname, after, before, hsplit, hafter⟩ := List.find?_eq_some_iff_append.mp h
  rw [Bool.and_eq_true, decide_eq_true_iff, decide_eq_true_iff] at hname
  have hnames : request.headerNames = before.reverse ++ name :: after.reverse := by
    simpa using congrArg List.reverse hsplit
  refine ⟨hname.1, hname.2, before.reverse, after.reverse, hnames, fun later hlater hkey => ?_⟩
  simpa [hkey] using hafter later (List.mem_reverse.mp hlater)

theorem exists_bearer? {name : String} (hname : name ∈ request.headerNames)
    (hvalues : request.readableValues name ≠ []) :
    ∃ bearer, request.bearer? (headerVariable name) = some bearer := by
  rw [← Option.isSome_iff_exists]
  exact List.find?_isSome.mpr ⟨name, List.mem_reverse.mpr hname, by simp [hvalues]⟩

/-- A variable under the common start is that of a name like any other. -/
theorem headerVariable_eq {name rest : String}
    (h : Variable.header? (headerVariable name) = some rest) :
    name ≠ "content-type" ∧ name ≠ "content-length" ∧
      headerVariable name = Variable.ofHeader name := by
  have hcontent : Variable.header? Variable.contentType = none ∧
      Variable.header? Variable.contentLength = none := by decide
  unfold headerVariable at h ⊢
  split at h
  · simp [hcontent] at h
  · rename_i htype
    split at h
    · simp [hcontent] at h
    · rename_i hlength
      exact ⟨htype, hlength, by rw [if_neg htype, if_neg hlength]⟩

def isHeaderVariable : Bool :=
  (Variable.header? key).isSome || key = Variable.contentType || key = Variable.contentLength

theorem isHeaderVariable_of_header? {key rest : String} (h : Variable.header? key = some rest) :
    isHeaderVariable key = true := by
  simp [isHeaderVariable, h]

theorem isHeaderVariable_headerVariable (name : String) :
    isHeaderVariable (headerVariable name) = true := by
  unfold headerVariable
  split
  · rfl
  · split
    · rfl
    · exact isHeaderVariable_of_header? (Variable.header?_ofHeader name)

/-- The variable of a header with its values, if any of them is readable. -/
def headerEntry? (name : String) : Option (String × String) :=
  if request.readableValues name = [] then none
  else some (headerVariable name, ",".intercalate (request.readableValues name))

theorem headerVariables_eq :
    request.headerVariables = request.headerNames.filterMap request.headerEntry? := by
  refine congrArg (fun entry? => request.headerNames.filterMap entry?) (funext fun name => ?_)
  unfold headerEntry?
  cases request.readableValues name <;> rfl

theorem find?_headerVariables :
    (request.headerVariables.reverse.find? fun pair => pair.1 == key) =
      (request.bearer? key).map fun name =>
        (headerVariable name, ",".intercalate (request.readableValues name)) := by
  have htest (name : String) : (request.headerEntry? name).any (fun pair => pair.1 == key) =
      (decide (headerVariable name = key) && decide (request.readableValues name ≠ [])) := by
    unfold headerEntry?
    by_cases hvalues : request.readableValues name = [] <;>
      simp [hvalues, Bool.beq_eq_decide_eq]
  rw [headerVariables_eq, ← List.filterMap_reverse, List.find?_filterMap, funext htest]
  -- The test on entries is that of a bearer, which has an entry.
  change (request.bearer? key).bind request.headerEntry? = _
  cases hfound : request.bearer? key with
  | none => rfl
  | some name => exact if_neg (request.bearer?_eq_some key hfound).2.1

theorem fst_of_mem_headerVariables {pair : String × String}
    (h : pair ∈ request.headerVariables) : isHeaderVariable pair.1 = true := by
  obtain ⟨name, _, hpair⟩ := List.mem_filterMap.mp h
  split at hpair
  · cases hpair
  · cases hpair
    exact isHeaderVariable_headerVariable name

theorem lineVariables_keys :
    ∃ target server peer,
      (request.lineVariables ++ peerVariables remote).map (·.1) =
        [Variable.requestMethod, Variable.scriptName, Variable.pathInfo, Variable.queryString,
          Variable.serverProtocol, Variable.urlScheme] ++ target ++ server ++ peer ∧
      (target = [] ∨ target = [Variable.requestUri]) ∧
      (server = [] ∨ server = [Variable.serverName, Variable.serverPort]) ∧
      (peer = [] ∨ peer = [Variable.remoteAddr, Variable.remotePort]) := by
  refine ⟨request.uri.target?.toList.map fun _ => Variable.requestUri,
    request.serverVariables.map (·.1), (peerVariables remote).map (·.1), ?_, ?_, ?_, ?_⟩
  · simp [lineVariables]
  · cases request.uri.target? <;> simp
  · unfold serverVariables
    split <;> simp
  · cases remote <;> simp [peerVariables]

/-- The variables of the request line and the peer are not for headers, and they are distinct. -/
theorem lineVariables_distinct :
    ((request.lineVariables ++ peerVariables remote).map (·.1)).Nodup ∧
      ∀ pair ∈ request.lineVariables ++ peerVariables remote,
        isHeaderVariable pair.1 = false := by
  obtain ⟨target, server, peer, hkeys, htarget, hserver, hpeer⟩ :=
    request.lineVariables_keys remote
  have hall : (∀ key ∈ (request.lineVariables ++ peerVariables remote).map (·.1),
      isHeaderVariable key = false) ∧
      ((request.lineVariables ++ peerVariables remote).map (·.1)).Nodup := by
    rw [hkeys]
    rcases htarget with rfl | rfl <;> rcases hserver with rfl | rfl <;>
      rcases hpeer with rfl | rfl <;> decide +kernel
  exact ⟨hall.2, fun pair hpair => hall.1 _ (List.mem_map_of_mem hpair)⟩

theorem get?_environ_of_isHeaderVariable (h : isHeaderVariable key = true) :
    (request.environ remote).get? key = (request.bearer? key).map fun name =>
      ",".intercalate (request.readableValues name) := by
  have hother {pairs : List (String × String)}
      (hpairs : ∀ pair ∈ pairs, isHeaderVariable pair.1 = false) :
      (pairs.reverse.find? fun pair => pair.1 == key) = none := by
    refine List.find?_eq_none.mpr fun pair hpair hkey => ?_
    have hfalse := hpairs pair (List.mem_reverse.mp hpair)
    rw [beq_iff_eq.mp hkey, h] at hfalse
    cases hfalse
  have hline := (request.lineVariables_distinct remote).2
  rw [environ_eq, Dictionary.get?_ofList, List.reverse_append, List.reverse_append,
    List.find?_append, List.find?_append,
    hother fun pair hpair => hline pair (List.mem_append_right _ hpair),
    hother fun pair hpair => hline pair (List.mem_append_left _ hpair), find?_headerVariables]
  simp [Function.comp_def]

/-- Whether a request has a header with readable values, other than the two that describe the
content. -/
structure HasHeader (name : String) : Prop where
  mem : name ∈ request.headerNames
  notType : name ≠ "content-type"
  notLength : name ≠ "content-length"
  readable : request.readableValues name ≠ []

variable {request key}

theorem HasHeader.headerVariable_eq {name : String} (h : request.HasHeader name) :
    headerVariable name = Variable.ofHeader name := by
  rw [headerVariable, if_neg h.notType, if_neg h.notLength]

/-- The variable of a header holds the values of the last header with that variable. -/
theorem HasHeader.get?_environ {name : String} (h : request.HasHeader name) :
    ∃ before last after, request.headerNames = before ++ last :: after ∧
      request.HasHeader last ∧ Variable.ofHeader last = Variable.ofHeader name ∧
      (∀ later ∈ after, request.HasHeader later →
        Variable.ofHeader later ≠ Variable.ofHeader name) ∧
      (request.environ remote).get? (Variable.ofHeader name) =
        some (",".intercalate (request.readableValues last)) := by
  obtain ⟨last, hlast⟩ := request.exists_bearer? h.mem h.readable
  rw [h.headerVariable_eq] at hlast
  obtain ⟨hvariable, hreadable, before, after, hnames, hafter⟩ := request.bearer?_eq_some _ hlast
  have hspelled := Variable.header?_ofHeader name
  rw [← hvariable] at hspelled
  obtain ⟨htype, hlength, hsame⟩ := Incoming.headerVariable_eq hspelled
  have hhas : request.HasHeader last := ⟨by simp [hnames], htype, hlength, hreadable⟩
  have hheader := isHeaderVariable_of_header? (Variable.header?_ofHeader name)
  refine ⟨before, last, after, hnames, hhas, hsame.symm.trans hvariable, ?_, ?_⟩
  · intro later hlater hhasLater heq
    exact hhasLater.readable (hafter later hlater (hhasLater.headerVariable_eq.trans heq))
  · rw [request.get?_environ_of_isHeaderVariable remote _ hheader, hlast]
    rfl

theorem exists_hasHeader {rest : String} (hheader : Variable.header? key = some rest)
    (hkey : key ∈ (request.environ remote).keys) :
    ∃ name, request.HasHeader name ∧ Variable.ofHeader name = key := by
  rw [Dictionary.mem_keys_iff,
    request.get?_environ_of_isHeaderVariable remote key (isHeaderVariable_of_header? hheader),
    Option.isSome_map] at hkey
  obtain ⟨name, hname⟩ := Option.isSome_iff_exists.mp hkey
  obtain ⟨hvariable, hreadable, before, after, hnames, _⟩ := request.bearer?_eq_some key hname
  obtain ⟨htype, hlength, hsame⟩ := Incoming.headerVariable_eq (hvariable ▸ hheader)
  exact ⟨name, ⟨by simp [hnames], htype, hlength, hreadable⟩, hsame.symm.trans hvariable⟩

/-- A variable of the request line or the peer is as it was set, and it is set once. -/
theorem get?_environ_eq_some_iff (h : isHeaderVariable key = false) {value : String} :
    (request.environ remote).get? key = some value ↔
      (key, value) ∈ request.lineVariables ++ peerVariables remote := by
  have hheaders : (request.headerVariables.reverse.find? fun pair => pair.1 == key) = none := by
    refine List.find?_eq_none.mpr fun pair hpair hkey => ?_
    have htrue := request.fst_of_mem_headerVariables (List.mem_reverse.mp hpair)
    rw [beq_iff_eq.mp hkey, h] at htrue
    cases htrue
  have hsame : (request.environ remote).get? key =
      (Dictionary.ofList (request.lineVariables ++ peerVariables remote)).get? key := by
    rw [environ_eq, Dictionary.get?_ofList, Dictionary.get?_ofList]
    simp only [List.reverse_append, List.find?_append, hheaders, Option.none_or]
  rw [hsame, Dictionary.get?_ofList_eq_some_iff (request.lineVariables_distinct remote).1]

theorem get?_environ_of_mem_lineVariables {value : String}
    (hmem : (key, value) ∈ request.lineVariables) :
    (request.environ remote).get? key = some value := by
  have hboth := List.mem_append_left (peerVariables remote) hmem
  exact (request.get?_environ_eq_some_iff remote
    ((request.lineVariables_distinct remote).2 _ hboth)).mpr hboth

end Http.Incoming

end RequestTracing
