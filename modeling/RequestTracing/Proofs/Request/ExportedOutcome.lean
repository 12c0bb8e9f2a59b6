import RequestTracing.Proofs.Request.Export
/-!
What an exported span shows of the response and of a failure. A later start of the response does not
replace the code of an earlier one, and neither the last start nor a failure decides the outcome if
a status line without a code outranks it.
-/
namespace RequestTracing

namespace Http

def codes (starts : List ResponseStart) : List Int :=
  starts.filterMap fun start => statusCode? start.status

/-- Whether of some starts of a response at most one has a code, and none has an outcome above that
of the last. -/
structure Conclusive (starts : List ResponseStart) : Prop where
  codes : (codes starts).length ≤ 1
  outcomes : ∀ last, starts.getLast? = some last → ∀ start ∈ starts,
    (lineOutcome start.status).outranks (lineOutcome last.status) = false

end Http

/-- Whether a span shows the code of the last of some starts that has one, and no other code, and
the outcome of the last of them. -/
structure ExportedSpan.ShowsLast (span : ExportedSpan) (starts : List ResponseStart) : Prop where
  codes : valuesOf Http.statusCodeAttribute span.attributes =
    ((Http.lastCode? starts).map .int).toList
  status : ∀ last, starts.getLast? = some last → span.status = Http.lineOutcome last.status

namespace Layer

variable {layer : Layer} {environ : Environ} {t : Telemetry} {span : DistributedSpan}
  {first : SpanRecord}

/-- Each start with a code adds it to the span, whatever codes there are. -/
theorem valuesOf_startAttributes (kind : SpanKind) (starts : List ResponseStart) :
    valuesOf Http.statusCodeAttribute (starts.flatMap (layer.startAttributes kind)) =
      (Http.codes starts).map .int := by
  induction starts with
  | nil => rfl
  | cons start starts ih =>
    have hcode : valuesOf Http.statusCodeAttribute (Http.codeAttribute start.status) =
        ((Http.statusCode? start.status).map .int).toList := by
      cases hcode : Http.statusCode? start.status <;> simp [Http.codeAttribute, hcode, valuesOf]
    have hheaders : valuesOf Http.statusCodeAttribute
        (kindHeaders kind (layer.capture.responseAttributes start.headers)) = [] :=
      valuesOf_kindHeaders (.inr rfl) kind _ _ _
    rw [List.flatMap_cons, valuesOf_append, ih, startAttributes, valuesOf_append, hcode, hheaders]
    cases hcode : Http.statusCode? start.status <;> simp [Http.codes, hcode]

/-- A span shows the codes of all starts, unless it has too many attributes. -/
theorem StartsKeeping.valuesOf_exported (h : layer.StartsKeeping environ t span first)
    (starts : List ResponseStart) (failures : List Failure)
    (hfits : (layer.lastRecord environ span.kind first starts failures).attributes.length ≤
      DistributedSpan.maxAttributes) :
    valuesOf Http.statusCodeAttribute
        (layer.exportedSpan environ span first starts failures).attributes =
      (Http.codes starts).map .int := by
  have hall : (layer.exportedSpan environ span first starts failures).attributes =
      (layer.lastRecord environ span.kind first starts failures).attributes :=
    List.take_of_length_le hfits
  have hrequest : valuesOf Http.statusCodeAttribute first.attributes = [] := by
    rw [h.attributes]
    exact valuesOf_entries (Http.requestAttributes_statusCode environ layer.capture.allMethods)
  have hheaders : valuesOf Http.statusCodeAttribute
      (kindHeaders span.kind (layer.capture.requestAttributes environ)) = [] :=
    valuesOf_kindHeaders (.inl rfl) span.kind _ _ _
  rw [hall]
  simp [lastRecord, recordAfter, readiedRecord, SpanRecord.note, hrequest, hheaders,
    valuesOf_startAttributes]

/-- The outcome of a span is the greatest of those that starts and failures have offered. -/
theorem StartsKeeping.status_exported (h : layer.StartsKeeping environ t span first)
    (starts : List ResponseStart) (failures : List Failure) :
    (layer.exportedSpan environ span first starts failures).status =
      .greatest (outcomes starts failures) := by
  have hstatus : (layer.readiedRecord environ span.kind first).status = .unset := h.status
  unfold SpanStatus.greatest
  rw [← hstatus]
  rfl

/-- A span shows the last start of a response just if the starts are conclusive. -/
theorem StartsKeeping.showsLast_iff (h : layer.StartsKeeping environ t span first)
    (starts : List ResponseStart)
    (hfits : (layer.lastRecord environ span.kind first starts []).attributes.length ≤
      DistributedSpan.maxAttributes) :
    (layer.exportedSpan environ span first starts []).ShowsLast starts ↔
      Http.Conclusive starts := by
  have hcodes : valuesOf Http.statusCodeAttribute
      (layer.exportedSpan environ span first starts []).attributes =
        ((Http.lastCode? starts).map .int).toList ↔ (Http.codes starts).length ≤ 1 := by
    rw [h.valuesOf_exported starts [] hfits]
    have hlast : Http.lastCode? starts = (Http.codes starts).getLast? := rfl
    rw [hlast]
    match Http.codes starts with
    | [] => simp
    | [code] => simp
    | first :: second :: codes =>
      cases hmore : (first :: second :: codes).getLast? <;> simp
  have houtcomes (last : ResponseStart) (hlast : starts.getLast? = some last) :
      (layer.exportedSpan environ span first starts []).status = Http.lineOutcome last.status ↔
        ∀ start ∈ starts,
          (Http.lineOutcome start.status).outranks (Http.lineOutcome last.status) = false := by
    have hmem : Http.lineOutcome last.status ∈ outcomes starts [] := by
      simpa [outcomes] using ⟨last, List.mem_of_getLast? hlast, rfl⟩
    rw [h.status_exported, SpanStatus.greatest_eq_iff hmem]
    simp [outcomes]
  constructor
  · intro hshows
    exact ⟨hcodes.mp hshows.codes, fun last hlast =>
      (houtcomes last hlast).mp (hshows.status last hlast)⟩
  · intro hconclusive
    exact ⟨hcodes.mpr hconclusive.codes, fun last hlast =>
      (houtcomes last hlast).mpr (hconclusive.outcomes last hlast)⟩

variable (layer) (environ) (t)

def exporting : Layer :=
  { tracer := .distributed true none, meter := .observer, capture := {} }

theorem exporting_isSilent : exporting.IsSilent :=
  isSilent_of_none rfl rfl

section Serve

variable {σ : Type} {own : Option Propagator} {app : Application σ}

/-- A sampled request without a failure exports one span. Unless that has too many attributes, it
shows the last of the starts of its response just if at most one of them has a code and none has an
outcome above that of the last. -/
theorem serve_shows_last (htracer : layer.tracer = .distributed true own)
    (hsilent : layer.IsSilent) (happ : app.OnlyReports) (uses : List Use) (server : Server)
    (hsampled : (Tracer.parent (own.getD t.propagator) environ t).1.all (·.isSampled) = true) :
    let service := (layer.wrap app).serve environ uses server t
    service.isOver uses = true → service.failures = [] →
    ∃ span first events starts, layer.StartsKeeping environ t span first ∧
      service.telemetry.events = t.events ++ events ∧ layer.SettledAfter starts events ∧
      let exported := layer.exportedSpan environ span first starts []
      service.telemetry.exported = t.exported ++ [exported] ∧
      ((layer.lastRecord environ span.kind first starts []).attributes.length ≤
          DistributedSpan.maxAttributes →
        (exported.ShowsLast starts ↔ Http.Conclusive starts)) := by
  intro service hover hnone
  obtain ⟨span, first, hstarts, hserved⟩ :=
    serve_exported htracer hsilent happ environ uses server t hsampled
  rw [if_pos hover] at hserved
  obtain ⟨_, events, starts, _, hevents, hsettled, hexported⟩ := hserved
  have hfailures : ((layer.wrap app).serve environ uses server t).failures = [] := hnone
  rw [hfailures] at hexported
  exact ⟨span, first, events, starts, hstarts, hevents, hsettled, hexported,
    hstarts.showsLast_iff starts⟩

theorem serve_shows_last_unreadable :
    let app := Script.application "request"
      [.start { start := { status := "404 Gone" } }, .start { start := { status := "oops" } }]
    let service := (exporting.wrap app).serve .empty [.next] { request := "request" } {}
    service.isOver [.next] = true ∧ service.failures = [] ∧
    ∃ exported, service.telemetry.exported = [exported] ∧
      exported.ShowsLast [{ status := "404 Gone" }, { status := "oops" }] := by
  intro app service
  have hover : service.isOver [.next] = true := by rfl
  have hnone : service.failures = [] := by rfl
  obtain ⟨span, first, events, starts, hstarts, hevents, hsettled, hexported, hshows⟩ :=
    exporting.serve_shows_last .empty {} rfl exporting_isSilent
      (Script.application_onlyReports "request" _) [.next] { request := "request" } rfl hover hnone
  have hall : starts = [{ status := "404 Gone" }, { status := "oops" }] := by
    rw [hsettled.starts_eq]
    have hservice : events = service.telemetry.events := hevents.symm
    rw [hservice]
    rfl
  refine ⟨hover, hnone, _, hexported, ?_⟩
  rw [← hall]
  have hkind : span.kind = .server := (congrArg Span.kind hstarts.span).symm
  refine (hshows ?_).mpr ⟨?_, ?_⟩
  · rw [hall, hkind]
    simp only [lastRecord, recordAfter, readiedRecord, SpanRecord.note, hstarts.attributes]
    decide
  · rw [hall]
    decide
  · rw [hall]
    rintro last hlast start hstart
    obtain rfl : ({ status := "oops" } : ResponseStart) = last := Option.some.inj hlast
    simp only [List.mem_cons, List.not_mem_nil, or_false] at hstart
    rcases hstart with rfl | rfl
    · rfl
    · exact SpanStatus.outranks_self _

/-- A span that was given the code of a replaced response shows both codes, and the failure of the
first one. -/
theorem serve_shows_replaced :
    let starts : List ResponseStart := [{ status := "500 Oops" }, { status := "200 OK" }]
    let app := Script.application "request" (starts.map fun start => .start { start })
    let service := (exporting.wrap app).serve .empty [.next] { request := "request" } {}
    exporting.IsSilent ∧ app.OnlyReports ∧ service.isOver [.next] = true ∧
    service.failures = [] ∧ exporting.SettledAfter starts service.telemetry.events ∧
    (service.telemetry.exported.map fun exported =>
      valuesOf Http.statusCodeAttribute exported.attributes) = [[.int 500, .int 200]] ∧
    service.telemetry.exported.map (·.status) = [.error ""] ∧
    ∀ exported ∈ service.telemetry.exported, ¬ exported.ShowsLast starts := by
  intro starts app service
  have hsettled : exporting.SettledAfter starts service.telemetry.events := by
    refine ⟨service.telemetry.events.takeWhile fun event => !event.isDuration, _,
      service.telemetry.events.drop 5, rfl, ?_, rfl⟩
    decide
  have hcodes : (service.telemetry.exported.map fun exported =>
      valuesOf Http.statusCodeAttribute exported.attributes) = [[.int 500, .int 200]] := by rfl
  refine ⟨exporting_isSilent, Script.application_onlyReports "request" _, rfl, rfl, hsettled,
    hcodes, rfl, fun exported hexported hshows => ?_⟩
  have hmem : valuesOf Http.statusCodeAttribute exported.attributes ∈
      service.telemetry.exported.map fun exported =>
        valuesOf Http.statusCodeAttribute exported.attributes :=
    List.mem_map_of_mem hexported
  have hlast : Http.lastCode? starts = some 200 := by rfl
  rw [hcodes, List.mem_singleton, hshows.codes, hlast] at hmem
  simp at hmem

/-- A sampled request that failed exports the failure as its outcome just if no start of its
response without a code outranks the failure. -/
theorem serve_exports_failure (htracer : layer.tracer = .distributed true own)
    (hsilent : layer.IsSilent) (happ : app.OnlyReports) (uses : List Use) (server : Server)
    (hsampled : (Tracer.parent (own.getD t.propagator) environ t).1.all (·.isSampled) = true) :
    let service := (layer.wrap app).serve environ uses server t
    ∀ failure ∈ service.failures,
    ∃ span first events starts, layer.StartsKeeping environ t span first ∧
      service.telemetry.events = t.events ++ events ∧ layer.SettledAfter starts events ∧
      let exported := layer.exportedSpan environ span first starts [failure]
      service.telemetry.exported = t.exported ++ [exported] ∧
      (exported.status = .error failure ↔
        ∀ start ∈ starts, Http.statusCode? start.status = none →
          (Http.unreadableStatus start.status).outranks (.error failure) = false) := by
  intro service failure hfailure
  obtain ⟨span, first, hstarts, hserved⟩ :=
    serve_exported htracer hsilent happ environ uses server t hsampled
  cases hover : service.isOver uses with
  | false =>
    rw [if_neg (by rw [hover]; simp)] at hserved
    have hnone : service.failures = [] := hserved
    rw [hnone] at hfailure
    contradiction
  | true =>
    rw [if_pos hover] at hserved
    obtain ⟨cause, events, starts, hcause, hevents, hsettled, hexported⟩ := hserved
    obtain rfl : cause = some failure := by
      have hmem : failure ∈ cause.toList := hcause ▸ hfailure
      simpa using hmem
    rw [hcause] at hexported
    refine ⟨span, first, events, starts, hstarts, hevents, hsettled, hexported, ?_⟩
    have hmem : SpanStatus.error failure ∈ outcomes starts [failure] := by simp [outcomes]
    rw [hstarts.status_exported, SpanStatus.greatest_eq_iff hmem]
    constructor
    · intro hbelow start hstart hcode
      have hoffered : Http.lineOutcome start.status ∈ outcomes starts [failure] := by
        simpa [outcomes] using .inl ⟨start, hstart, rfl⟩
      have hline := hbelow _ hoffered
      simpa [Http.lineOutcome_outranks_error, hcode] using hline
    · intro hbelow outcome houtcome
      rcases List.mem_append.mp houtcome with houtcome | houtcome
      · obtain ⟨start, hstart, rfl⟩ := List.mem_map.mp houtcome
        rw [Http.lineOutcome_outranks_error]
        cases hcode : Http.statusCode? start.status with
        | none => simpa using hbelow start hstart hcode
        | some code => simp
      · rw [List.mem_singleton.mp houtcome, SpanStatus.outranks_self]

theorem serve_exports_failure_talkative :
    let app := Script.application "request" Script.talkative
    let service := (exporting.wrap app).serve .empty [.next, .next] { request := "request" } {}
    "out of chunks" ∈ service.failures ∧
    ∃ exported, service.telemetry.exported = [exported] ∧
      exported.status = .error "out of chunks" := by
  intro app service
  have hfailure : "out of chunks" ∈ service.failures := by decide
  obtain ⟨span, first, events, starts, hstarts, hevents, hsettled, hexported, hfailed⟩ :=
    exporting.serve_exports_failure .empty {} rfl exporting_isSilent
      (Script.application_onlyReports "request" _) [.next, .next] { request := "request" } rfl
      "out of chunks" hfailure
  have hall : starts.map (·.status) = ["200 OK", "201 Created", "no code", "503 Down"] := by
    rw [hsettled.starts_eq]
    have hservice : events = service.telemetry.events := hevents.symm
    rw [hservice]
    rfl
  refine ⟨hfailure, _, hexported, hfailed.mpr fun start hstart _ => ?_⟩
  have hline : start.status ∈ ["200 OK", "201 Created", "no code", "503 Down"] :=
    hall ▸ List.mem_map_of_mem hstart
  simp only [List.mem_cons, List.not_mem_nil, or_false] at hline
  rcases hline with hline | hline | hline | hline <;> rw [hline] <;> decide

/-- A status line without a code hides the failure of an application that comes after it in the
order of texts. -/
theorem serve_hides_failure :
    let app := Script.application "request"
      [.start { start := { status := "oops" } }, .fail "Boom"]
    let service := (exporting.wrap app).serve .empty [] { request := "request" } {}
    exporting.IsSilent ∧ app.OnlyReports ∧ service.failure = some "Boom" ∧
    service.telemetry.exported.map (·.status) = [Http.unreadableStatus "oops"] ∧
    ∀ exported ∈ service.telemetry.exported, exported.status ≠ .error "Boom" := by
  intro app service
  have hshown : service.telemetry.exported.map (·.status) = [Http.unreadableStatus "oops"] := by
    rfl
  refine ⟨exporting_isSilent, Script.application_onlyReports "request" _, rfl, hshown,
    fun exported hexported hfailed => ?_⟩
  have hmem := List.mem_map_of_mem (f := (·.status)) hexported
  rw [hshown, List.mem_singleton, hfailed] at hmem
  revert hmem
  decide

end Serve

end Layer

end RequestTracing
