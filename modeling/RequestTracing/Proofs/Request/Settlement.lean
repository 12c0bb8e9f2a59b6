import RequestTracing.Proofs.Application.Script
import RequestTracing.Proofs.Request.Accounts
/-!
Every request is settled once. Whichever of the application, its body and the one who holds the body
brings the request to its end, the span ends once, one duration is recorded, and the count of active
requests is taken back with the labels with which the request was counted.
-/
namespace RequestTracing

namespace Layer

variable (layer : Layer) (environ : Environ) (t : Telemetry)

/-- A request whose span has not ended. -/
structure Lasting (course : Course) : Prop where
  span : ∃ span, course.request.span = some span ∧
    span.showsEnd = (layer.started environ t).1.showsEnd
  exported : course.telemetry.exported = t.exported
  events : ∃ new, course.telemetry.events = t.events ++ new ∧
    ∀ event ∈ new, event.isSpanEnd = false

variable {layer environ t}

theorem Lasting.extend {course : Course} (h : layer.Lasting environ t course) (last : Course)
    (hspan : last.request.span = course.request.span)
    (hexported : last.telemetry.exported = course.telemetry.exported)
    {more : List Event} (hmore : last.telemetry.events = course.telemetry.events ++ more)
    (hquiet : ∀ event ∈ more, event.isSpanEnd = false) : layer.Lasting environ t last := by
  obtain ⟨new, hnew, hends⟩ := h.events
  refine ⟨hspan ▸ h.span, hexported.trans h.exported, new ++ more, ?_, ?_⟩
  · rw [hmore, hnew, List.append_assoc]
  · exact fun event he => (List.mem_append.mp he).elim (hends event) (hquiet event)

/-- Whatever the new events of a lasting request are, none of them ends its span. -/
theorem Lasting.quiet {course : Course} (h : layer.Lasting environ t course) {new : List Event}
    (hnew : course.telemetry.events = t.events ++ new) :
    ∀ event ∈ new, event.isSpanEnd = false := by
  obtain ⟨others, hothers, hquiet⟩ := h.events
  obtain rfl : others = new := List.append_cancel_left (hothers.symm.trans hnew)
  exact hquiet

theorem Lasting.enter {course : Course} (h : layer.Lasting environ t course) :
    layer.Lasting environ t (enter course) := by
  obtain ⟨more, hmore, henter⟩ := course.request.enter_events course.telemetry
  refine h.extend (Layer.enter course) rfl (course.request.enter_exported _) hmore
    fun event he => ?_
  obtain ⟨number, rfl⟩ := henter event he
  rfl

theorem Lasting.move (hhooks : ¬ layer.HooksUse .finish) {course : Course}
    (h : layer.Lasting environ t course) {move : Move} (hown : move.IsOwn) :
    layer.Lasting environ t (layer.move course move) := by
  cases move with
  | report events =>
    refine h.extend (layer.move course (.report events)) rfl
      (by simp [Layer.move, Telemetry.emitAll_eq]) (course.telemetry.emitAll_events events)
      fun event he => ?_
    have hown := hown event he
    cases event <;> simp_all [Event.isReport, Event.isSpanEnd]
  | respond start =>
    obtain ⟨span, hspan, hshows⟩ := h.span
    obtain ⟨new, hnew, hends⟩ := h.events
    have hspare : ¬ layer.MayDo .finish := fun hmay => hhooks (hmay rfl)
    have hreaches := layer.annotateSpan_reaches course.request.environ start span course.telemetry
    have hcourse := layer.annotate_of_some hspan start course.telemetry
    obtain ⟨more, hmore, huse⟩ := hreaches.events
    refine ⟨⟨_, by simp [Layer.move, hcourse], (hreaches.showsEnd hspare).trans hshows⟩, ?_,
      new ++ (more ++ [.server course.server.request start]), ?_, ?_⟩
    · simpa [Layer.move, hcourse, Telemetry.emit] using
        (hreaches.exported hspare).trans h.exported
    · simp [Layer.move, hcourse, hmore, hnew]
    · intro event he
      simp only [List.mem_append, List.mem_singleton] at he
      rcases he with he | he | rfl
      · exact hends event he
      · exact Bool.eq_false_iff.mpr fun hend => hspare ((huse event he).2 hend)
      · rfl

variable (layer environ t)

theorem keeps_lasting (hhooks : ¬ layer.HooksUse .finish) :
    layer.Keeps (layer.Lasting environ t) where
  enter course h := h.enter
  leave course before h :=
    h.extend { course with telemetry := before.leave course.telemetry } rfl (by simp)
      (by simp : _ = course.telemetry.events ++ []) (by simp)
  move course move hown h := h.move hhooks hown
  fail course failure h := by
    let record := layer.failureRecord course.request.environ failure
    exact h.extend { course with telemetry := course.telemetry.emit (.log record) } rfl rfl
      (course.telemetry.emit_events (.log record))
      (by simp [record, Event.isSpanEnd, LogRecord.isSpanEnd, failureRecord])

theorem opening_lasting (hhooks : ¬ layer.HooksUse .finish) (server : Server) :
    layer.Lasting environ t (layer.opening environ server t) := by
  obtain ⟨new, hready, hquiet⟩ := layer.readied_events environ t
  have hreaches := layer.readied_reaches environ t
  have hspare : ¬ layer.MayDo .finish := fun hmay => hhooks (hmay rfl)
  refine ⟨⟨_, rfl, hreaches.showsEnd hspare⟩,
    (hreaches.exported hspare).trans (layer.tracer.start_exported _ _ environ t),
    new ++ [layer.meter.active 1 (layer.activeLabels environ)],
    by simp [opening, begin_eq, hready], fun event he => ?_⟩
  rcases List.mem_append.mp he with he | he
  · exact Bool.eq_false_iff.mpr fun hend => hhooks ((hquiet event he).2.2 hend)
  · rw [List.mem_singleton.mp he]
    cases layer.meter <;> rfl

/-- The signs of the end of a request, among its events and its exported spans. -/
structure Settlement (shown ended : Bool) (events : List Event) (exports : List ExportedSpan) :
    Prop where
  spanEnds : events.countP Event.isSpanEnd + exports.length = if ended && shown then 1 else 0
  durations : events.countP Event.isDuration = if ended then 1 else 0
  counts : events.filter (Event.isActive 1) = [layer.meter.active 1 (layer.activeLabels environ)]
  discounts : events.filter (Event.isActive (-1)) =
    if ended then [layer.meter.active (-1) (layer.activeLabels environ)] else []
  momentwise : ∀ moment, moment <+: events →
    moment.countP Event.isSpanEnd + exports.length ≤ 1 ∧ moment.countP Event.isDuration ≤ 1 ∧
      moment.countP (Event.isActive 1) ≤ 1 ∧ moment.countP (Event.isActive (-1)) ≤ 1
  afterSpanEnd : events.Pairwise fun first later =>
    first.isSpanEnd = true → later.isSpanUse = false
  /-- The last of the metrics leaves the request alone. -/
  afterDiscount : events.Pairwise fun first later =>
    first.isActive (-1) = true → later.isMetric = false ∧ later.isSpanUse = false

variable {layer environ}

theorem Settlement.of_totals {shown ended : Bool} {events : List Event}
    {exports : List ExportedSpan}
    (spanEnds : events.countP Event.isSpanEnd + exports.length = if ended && shown then 1 else 0)
    (durations : events.countP Event.isDuration = if ended then 1 else 0)
    (counts : events.filter (Event.isActive 1) =
      [layer.meter.active 1 (layer.activeLabels environ)])
    (discounts : events.filter (Event.isActive (-1)) =
      if ended then [layer.meter.active (-1) (layer.activeLabels environ)] else [])
    (afterSpanEnd : events.Pairwise fun first later =>
      first.isSpanEnd = true → later.isSpanUse = false)
    (afterDiscount : events.Pairwise fun first later =>
      first.isActive (-1) = true → later.isMetric = false ∧ later.isSpanUse = false) :
    layer.Settlement environ shown ended events exports := by
  refine ⟨spanEnds, durations, counts, discounts, fun moment hmoment => ?_, afterSpanEnd,
    afterDiscount⟩
  have hle (kind : Event → Bool) : moment.countP kind ≤ events.countP kind :=
    hmoment.sublist.countP_le
  have hend := hle Event.isSpanEnd
  have hduration := hle Event.isDuration
  have hcount := hle (Event.isActive 1)
  have hdiscount := hle (Event.isActive (-1))
  have hcounts : events.countP (Event.isActive 1) = 1 := by
    rw [List.countP_eq_length_filter, counts, List.length_singleton]
  have hdiscounts : events.countP (Event.isActive (-1)) ≤ 1 := by
    rw [List.countP_eq_length_filter, discounts]
    cases ended <;> simp
  refine ⟨?_, ?_, by omega, by omega⟩
  · split at spanEnds <;> omega
  · split at durations <;> omega

/-- Among events with at most one of some kind, what holds of all that follow it holds after it. -/
theorem pairwise_of_once {kind : Event → Bool} {P : Event → Prop} {before once after : List Event}
    (hbefore : ∀ event ∈ before, kind event = false) (honce : once.length ≤ 1)
    (hafter : ∀ event ∈ after, kind event = false ∧ P event) :
    (before ++ (once ++ after)).Pairwise fun first later => kind first = true → P later := by
  have hpairs : once.Pairwise fun first later => kind first = true → P later := by
    match once, honce with
    | [], _ => exact .nil
    | [event], _ => exact List.pairwise_singleton _ event
  refine List.pairwise_append.mpr ⟨?_, List.pairwise_append.mpr ⟨hpairs, ?_, ?_⟩, ?_⟩
  · exact List.pairwise_of_forall_mem_list fun first hfirst _ _ hkind => by
      simp [hbefore first hfirst] at hkind
  · exact List.pairwise_of_forall_mem_list fun _ _ later hlater _ => (hafter later hlater).2
  · exact fun _ _ later hlater _ => (hafter later hlater).2
  · exact fun first hfirst _ _ hkind => by simp [hbefore first hfirst] at hkind

theorem Settlement.of_lasting {shown : Bool} {new : List Event} (hcount : layer.IsCount environ new)
    (hquiet : ∀ event ∈ new, event.isSpanEnd = false) :
    layer.Settlement environ shown false new [] := by
  have hspanEnds : new.countP Event.isSpanEnd = 0 :=
    List.countP_eq_zero.mpr fun event he => by simp [hquiet event he]
  have hdiscounts := hcount.changes (-1)
  have hactive : ∀ event ∈ new, event.isActive (-1) = false := fun event he => by
    simpa using List.filter_eq_nil_iff.mp hdiscounts event he
  have honce : ([] : List Event).length ≤ 1 := by simp
  apply Settlement.of_totals
  · simpa using hspanEnds
  · exact hcount.durations
  · exact hcount.changes 1
  · exact hdiscounts
  · simpa using pairwise_of_once hquiet honce (List.forall_mem_nil _)
  · simpa using pairwise_of_once hactive honce (List.forall_mem_nil _)

theorem Settlement.of_settled {shown : Bool} {new ends later : List Event}
    {exports : List ExportedSpan} (labels : Attributes)
    (hcount : layer.IsCount environ (new ++ ends))
    (hquiet : ∀ event ∈ new, event.isSpanEnd = false)
    (hends : ∀ event ∈ ends, event.isSpanEnd = true)
    (hlate : ∀ event ∈ later, event.isLate = true)
    (hlength : ends.length + exports.length = if shown then 1 else 0) :
    layer.Settlement environ shown true
      (new ++ ends ++ [layer.meter.duration none labels,
        layer.meter.active (-1) (layer.activeLabels environ)] ++ later) exports := by
  have huse : ∀ event ∈ later, event.isSpanUse = false := fun event he =>
    Event.isSpanUse_eq_false_of_isLate (hlate event he)
  apply Settlement.of_totals
  · have hnewEnds : new.countP Event.isSpanEnd = 0 :=
      List.countP_eq_zero.mpr fun event he => by simp [hquiet event he]
    have hallEnds : ends.countP Event.isSpanEnd = ends.length :=
      List.countP_eq_length.mpr fun event he => hends event he
    simp only [List.countP_append, hnewEnds, hallEnds, Event.countP_isSpanEnd_of_isLate hlate]
    simpa [Event.isSpanEnd_eq_false] using hlength
  · have hdurations := hcount.durations
    rw [List.countP_append] at hdurations
    simp only [List.countP_append, Event.countP_isDuration_of_isLate hlate, hdurations]
    simp
  · rw [List.filter_append, List.filter_append, hcount.changes,
      Event.filter_isActive_of_isLate hlate]
    simp
  · rw [List.filter_append, List.filter_append, hcount.changes,
      Event.filter_isActive_of_isLate hlate]
    simp
  · have hafter : ∀ event ∈ [layer.meter.duration none labels,
        layer.meter.active (-1) (layer.activeLabels environ)] ++ later,
        event.isSpanEnd = false ∧ event.isSpanUse = false := by
      intro event he
      have hevent : event.isSpanUse = false := by
        rcases List.mem_append.mp he with he | he
        · simp only [List.mem_cons, List.not_mem_nil, or_false] at he
          rcases he with rfl | rfl <;> simp
        · exact huse event he
      exact ⟨Event.isSpanEnd_eq_false hevent, hevent⟩
    have honce : ends.length ≤ 1 := by split at hlength <;> omega
    simpa using pairwise_of_once hquiet honce hafter
  · have hbefore : ∀ event ∈ new ++ ends ++ [layer.meter.duration none labels],
        event.isActive (-1) = false := by
      intro event he
      rcases List.mem_append.mp he with he | he
      · simpa using List.filter_eq_nil_iff.mp (hcount.changes (-1)) event he
      · rw [List.mem_singleton.mp he]
        exact layer.meter.isActive_duration labels (-1) none
    have honce : [layer.meter.active (-1) (layer.activeLabels environ)].length ≤ 1 := by simp
    have hafter : ∀ event ∈ later,
        event.isActive (-1) = false ∧ event.isMetric = false ∧ event.isSpanUse = false := by
      intro event he
      have hactive := Event.filter_isActive_of_isLate hlate (-1)
      exact ⟨by simpa using List.filter_eq_nil_iff.mp hactive event he,
        Event.isMetric_eq_false_of_isLate (hlate event he), huse event he⟩
    simpa using pairwise_of_once hbefore honce hafter

variable {t}

theorem Lasting.settlement {course : Course} (h : layer.Lasting environ t course)
    (hcounted : layer.Counted environ t course) :
    ∃ events exports, course.telemetry.events = t.events ++ events ∧
      course.telemetry.exported = t.exported ++ exports ∧
      layer.Settlement environ (layer.started environ t).1.showsEnd false events exports := by
  obtain ⟨new, hnew, hcount, _⟩ := hcounted.events
  have hexported := h.exported.trans (List.append_nil _).symm
  exact ⟨new, [], hnew, hexported, .of_lasting hcount (h.quiet hnew)⟩

theorem SettledFrom.settlement {course : Course}
    (h : layer.SettledFrom (fun course => (course.request.span.isSome = true ∧
      layer.Counted environ t course) ∧ layer.Lasting environ t course) course) :
    ∃ events exports, course.telemetry.events = t.events ++ events ∧
      course.telemetry.exported = t.exported ++ exports ∧
      layer.Settlement environ (layer.started environ t).1.showsEnd true events exports := by
  obtain ⟨last, status, late, ⟨⟨_, hcounted⟩, hlasting⟩, _, hevents, hexported, hlate⟩ := h
  obtain ⟨span, hspan, hshows⟩ := hlasting.span
  obtain ⟨new, hnew, hcount, _⟩ := hcounted.events
  obtain ⟨updates, ends, exports, hconclude, hexports, hupdates, hends, hlength⟩ :=
    layer.conclude_events hspan status
  have hquiet : ∀ event ∈ new ++ updates, event.isSpanEnd = false := fun event he =>
    (List.mem_append.mp he).elim (hlasting.quiet hnew event) fun he => (hupdates event he).2
  have hcountAll : layer.IsCount environ (new ++ updates ++ ends) := by
    rw [List.append_assoc]
    refine hcount.append fun event he => Event.isMetric_eq_false_of_isSpanUse ?_
    exact (List.mem_append.mp he).elim (fun he => (hupdates event he).1)
      fun he => Event.isSpanUse_of_isSpanEnd (hends event he)
  refine ⟨_, exports, ?_, hexported.trans (hexports.trans (by rw [hlasting.exported])),
    .of_settled last.request.durationLabels hcountAll hquiet hends hlate (hshows ▸ hlength)⟩
  rw [hevents, hconclude, hnew, hcounted.activeLabels]
  simp

/-- Whatever an application does, and whatever is done with a request of it, the request is settled
once. It is settled as soon as the application has failed, or the body has ended, failed, been
closed or been dropped. -/
theorem serve_settlement {σ : Type} (layer : Layer) (hhooks : ¬ layer.HooksUse .finish)
    {app : Application σ} (happ : app.OnlyReports) (environ : Environ) (uses : List Use)
    (server : Server) (t : Telemetry) :
    let service := (layer.wrap app).serve environ uses server t
    service.state.isOpen = !service.isOver uses ∧
    (service.state.isOpen = false ↔ service.state.request.span = none) ∧
    ∃ events exports, service.telemetry.events = t.events ++ events ∧
      service.telemetry.exported = t.exported ++ exports ∧
      layer.Settlement environ (layer.started environ t).1.showsEnd (service.isOver uses) events
        exports := by
  intro service
  have hopen : service.state.isOpen = !service.isOver uses :=
    (layer.serve_life happ environ uses server t).1
  have hlast := ((layer.keeps_counted environ t).and (layer.keeps_lasting environ t hhooks)).serve
    happ environ uses server t
    ⟨layer.opening_counted environ t server, layer.opening_lasting environ t hhooks server⟩
  refine ⟨hopen, ?_⟩
  rw [hopen]
  cases hover : service.isOver uses with
  | false =>
    rw [if_neg (by rw [hover]; simp)] at hlast
    obtain ⟨⟨_, hcounted⟩, hlasting⟩ := hlast
    obtain ⟨span, hspan, _⟩ := hlasting.span
    have hsome : service.state.request.span = some span := hspan
    exact ⟨by simp [hsome], hlasting.settlement hcounted⟩
  | true =>
    rw [if_pos hover] at hlast
    have hnone : service.state.request.span = none := by
      obtain ⟨_, _, _, _, hspan, _⟩ := hlast
      exact hspan
    exact ⟨by simp [hnone], hlast.settlement⟩

theorem serve_settlement_talkative :
    let uses : List Use := [.next, .next, .close, .drop, .respond { status := "404 Gone" }]
    let service := (observing.wrap (Script.application "request" Script.talkative)).serve .empty
      uses { request := "request" } {}
    service.isOver uses = true ∧
    ∃ events exports, service.telemetry.events = events ∧ service.telemetry.exported = exports ∧
      observing.Settlement .empty true true events exports := by
  have hhooks : ¬ observing.HooksUse .finish := by
    intro hfinish
    obtain ⟨value, h⟩ := observing_hooksUse hfinish
    contradiction
  intro uses service
  have hover : service.isOver uses = true := by rfl
  obtain ⟨_, _, events, exports, hevents, hexports, hsettled⟩ :=
    observing.serve_settlement hhooks
      (Script.application_onlyReports "request" Script.talkative) .empty uses
      { request := "request" } {}
  rw [hover] at hsettled
  exact ⟨hover, events, exports, hevents, hexports, hsettled⟩

end Layer

end RequestTracing
