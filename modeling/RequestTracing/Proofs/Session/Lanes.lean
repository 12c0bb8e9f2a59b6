import RequestTracing.Proofs.Request.Echo
import RequestTracing.Proofs.Session.Turns
/-!
Requests of a session that stand as if each had been served alone. Each turn moves one of them on
and leaves the others as they are.
-/
namespace RequestTracing

variable {σ : Type}

theorem Application.run_useAll_snoc (app : Application σ) (uses : List Use) (use : Use) (state : σ)
    (server : Server) (t : Telemetry) :
    let before := (app.useAll uses state).run server t
    let after := (app.useAll (uses ++ [use]) state).run server t
    let last := (app.use use before.1.2).run before.2.1 before.2.2
    after.1.2 = last.1.2 ∧ after.2 = last.2 := by
  induction uses generalizing state server t with
  | nil => simp [useAll]
  | cons first uses ih =>
    simpa [useAll] using ih ((app.use first state).run server t).1.2
      ((app.use first state).run server t).2.1 ((app.use first state).run server t).2.2

theorem Lane.alone_snoc (lane : Lane σ) (use : Use) (t : Telemetry) :
    let before := lane.alone t
    let after := Lane.alone { lane with uses := lane.uses ++ [use] } t
    let last := (lane.app.use use before.state).run before.server before.telemetry
    after.state = last.1.2 ∧ after.server = last.2.1 ∧ after.telemetry = last.2.2 := by
  intro before after last
  let called := (lane.app.call lane.environ).run lane.server t
  obtain ⟨hstate, hrest⟩ :=
    lane.app.run_useAll_snoc lane.uses use called.1.2 called.2.1 called.2.2
  exact ⟨hstate, congrArg Prod.fst hrest, congrArg Prod.snd hrest⟩

@[simp] theorem Event.renumber_zero : Event.renumber 0 = id := by
  funext event
  cases event <;> rfl

@[simp] theorem Traced.renumber_zero (body : Traced σ) : body.renumber 0 = body := by
  have hspan : Span.renumber 0 = id := by
    funext span
    cases span <;> rfl
  obtain ⟨request, inner, isOpen⟩ := body
  simp [renumber, Request.renumber, hspan]

def eventsOf (i : Nat) (history : List (Nat × Event)) : List Event :=
  history.filterMap fun entry => if entry.1 = i then some entry.2 else none

@[simp] theorem eventsOf_append (i : Nat) (history more : List (Nat × Event)) :
    eventsOf i (history ++ more) = eventsOf i history ++ eventsOf i more := by
  simp [eventsOf]

@[simp] theorem eventsOf_map_self (i : Nat) (events : List Event) :
    eventsOf i (events.map (i, ·)) = events := by
  simp only [eventsOf, List.filterMap_map, Function.comp_def, if_true, List.filterMap_some]

theorem eventsOf_eq_nil {i : Nat} {history : List (Nat × Event)}
    (h : ∀ entry ∈ history, entry.1 ≠ i) : eventsOf i history = [] :=
  List.filterMap_eq_nil_iff.mpr fun entry he => if_neg (h entry he)

/-- Whether a request of a session stands as if it had been served alone, up to the number of its
span, and has left some events. -/
structure Follows (layer : Layer) (t : Telemetry) (shift : Nat) (lane : Lane σ)
    (exchange : Exchange σ) (events : List Event) : Prop where
  app : exchange.app = lane.app
  wraps : ∃ app : Application σ, app.IsSecluded ∧ lane.app = layer.wrap app
  detached : (lane.alone t).state.request.IsDetached
  surroundings : (lane.alone t).telemetry.surroundings = t.surroundings
  state : exchange.state = (lane.alone t).state.renumber shift
  server : exchange.server = (lane.alone t).server
  events : ∃ own, (lane.alone t).telemetry.events = t.events ++ own ∧
    events = own.map (Event.renumber shift)

namespace Follows

variable {layer : Layer} (hhooks : ∀ on, ¬ layer.HooksUse (.setRecording on)) {t : Telemetry}
  {shift : Nat}

include hhooks

theorem of_call (htracer : ∀ exporting own, layer.tracer ≠ .distributed exporting own)
    {app : Application σ} (happ : app.IsSecluded) (environ : Environ) (server : Server)
    (limit : Nat) {now : Telemetry} (hnow : now.surroundings = t.surroundings)
    (hnumber : now.observedSpans = t.observedSpans + shift) :
    let ran := ((layer.wrap app).call environ).run server now
    ∃ events, ran.2.2 = (layer.tracer.count now).emitAll events ∧
      Follows layer t shift { app := layer.wrap app, environ, server }
        { app := layer.wrap app, state := ran.1.2, server := ran.2.1, limit } events := by
  obtain ⟨failure, body, last, events, hbody, hrun⟩ := Layer.call_echo htracer hhooks happ
    t.surroundings environ t.observedSpans server
  have halone : Lane.alone { app := layer.wrap app, environ, server } t =
      { failure, outcomes := [], state := body, server := last
        telemetry := (layer.tracer.count t).emitAll events } := by
    simp [Lane.alone, Application.serve, Application.useAll, hrun 0 t rfl rfl]
  intro ran
  have hran : ran = _ := hrun shift now hnow hnumber
  refine ⟨events.map (Event.renumber shift), by rw [hran], rfl, ⟨app, happ, rfl⟩, ?_, ?_, ?_, ?_,
    ?_⟩
  · rw [halone]
    exact hbody
  · simp [halone]
  · simp [halone, hran]
  · simp [halone, hran]
  · exact ⟨events, by simp [halone, Tracer.count], rfl⟩

/-- One more use of a request adds what it adds when the request is served alone. -/
theorem use {lane : Lane σ} {exchange : Exchange σ} {events : List Event}
    (h : Follows layer t shift lane exchange events) (use : Use) {now : Telemetry}
    (hnow : now.surroundings = t.surroundings) :
    let ran := (exchange.app.use use exchange.state).run exchange.server now
    ∃ more, ran.2.2 = now.emitAll more ∧
      Follows layer t shift { lane with uses := lane.uses ++ [use] }
        { exchange with state := ran.1.2, server := ran.2.1 } (events ++ more) := by
  obtain ⟨app, happ, hwraps⟩ := h.wraps
  obtain ⟨results, last, more, ⟨outcome, body, hbody, hresults⟩, hrun⟩ :=
    Layer.use_echo hhooks happ use h.detached (lane.alone t).server
  obtain ⟨own, hown, hevents⟩ := h.events
  -- Alone the request has its first number, so its run is the one that is moved up by nothing.
  have halone := hrun 0 (lane.alone t).telemetry h.surroundings
  simp only [hresults, Traced.renumber_zero, Event.renumber_zero, List.map_id, ← hwraps] at halone
  have hrunning := hrun shift now hnow
  simp only [hresults, ← h.state, ← h.server, ← hwraps, ← h.app] at hrunning
  obtain ⟨hstate, hserver, htelemetry⟩ := lane.alone_snoc use t
  simp only [halone] at hstate hserver htelemetry
  simp only [hrunning]
  refine ⟨more.map (Event.renumber shift), rfl, h.app, ⟨app, happ, hwraps⟩, ?_, ?_, ?_, ?_, ?_⟩
  · rw [hstate]
    exact hbody
  · rw [htelemetry, Telemetry.surroundings_emitAll, h.surroundings]
  · rw [hstate]
  · rw [hserver]
  · exact ⟨own ++ more, by simp [htelemetry, hown], by simp [hevents]⟩

end Follows

/-- Whether all requests of a session stand as if each had been served alone. -/
structure Isolated (layer : Layer) (t : Telemetry) (lanes : List (Lane σ)) (traffic : Traffic σ)
    (history : List (Nat × Event)) : Prop where
  surroundings : traffic.telemetry.surroundings = t.surroundings
  numbers : traffic.telemetry.observedSpans =
    t.observedSpans + traffic.exchanges.length * layer.tracer.width
  length : traffic.exchanges.length = lanes.length
  events : traffic.telemetry.events = t.events ++ history.map (·.2)
  owners : ∀ entry ∈ history, entry.1 < lanes.length
  each : ∀ i lane, lanes[i]? = some lane → ∃ exchange, traffic.exchanges[i]? = some exchange ∧
    Follows layer t (i * layer.tracer.width) lane exchange (eventsOf i history)

/-- Whether a turn handles requests only by applications within a layer that keep to their own
requests. -/
def Turn.IsWithin (layer : Layer) : Turn σ → Prop
  | .call app _ _ _ => ∃ inner : Application σ, inner.IsSecluded ∧ app = layer.wrap inner
  | .use _ _ => True

namespace Isolated

variable {layer : Layer} {t : Telemetry} {lanes : List (Lane σ)} {traffic : Traffic σ}
  {history : List (Nat × Event)}

theorem start (layer : Layer) (t : Telemetry) :
    Isolated layer t ([] : List (Lane σ)) { telemetry := t } [] :=
  ⟨rfl, by simp, rfl, by simp, by simp, by simp⟩

/-- One request moves on and adds some events, and all others stay as they are. -/
theorem moves (h : Isolated layer t lanes traffic history) (now : Telemetry) {i : Nat}
    {others : List (Lane σ)} {later : Traffic σ} {more : List Event}
    (hsurroundings : now.surroundings = traffic.telemetry.surroundings)
    (hnumbers : now.observedSpans = t.observedSpans + later.exchanges.length * layer.tracer.width)
    (hevents : now.events = traffic.telemetry.events)
    (htelemetry : later.telemetry = now.emitAll more)
    (hlength : later.exchanges.length = others.length) (hgrows : lanes.length ≤ others.length)
    (hlanes : ∀ j ≠ i, others[j]? = lanes[j]?)
    (hexchanges : ∀ j ≠ i, later.exchanges[j]? = traffic.exchanges[j]?)
    {lane : Lane σ} (hlane : others[i]? = some lane) {exchange : Exchange σ}
    (hexchange : later.exchanges[i]? = some exchange)
    (hfollows : Follows layer t (i * layer.tracer.width) lane exchange
      (eventsOf i history ++ more)) :
    Isolated layer t others later (history ++ more.map (i, ·)) := by
  obtain ⟨hi, _⟩ := List.getElem?_eq_some_iff.mp hlane
  refine ⟨?_, ?_, hlength, ?_, fun entry he => ?_, fun j other hother => ?_⟩
  · rw [htelemetry, Telemetry.surroundings_emitAll, hsurroundings, h.surroundings]
  · rw [htelemetry, Telemetry.emitAll_eq]
    exact hnumbers
  · rw [htelemetry, Telemetry.emitAll_events, hevents, h.events]
    simp [Function.comp_def]
  · rcases List.mem_append.mp he with he | he
    · exact Nat.lt_of_lt_of_le (h.owners entry he) hgrows
    · obtain ⟨event, _, rfl⟩ := List.mem_map.mp he
      exact hi
  · rcases Decidable.em (j = i) with rfl | hj
    · obtain rfl : lane = other := Option.some.inj (hlane.symm.trans hother)
      refine ⟨exchange, hexchange, ?_⟩
      rwa [eventsOf_append, eventsOf_map_self]
    · obtain ⟨found, hfound, hstands⟩ := h.each j other ((hlanes j hj).symm.trans hother)
      refine ⟨found, (hexchanges j hj).trans hfound, ?_⟩
      have hnone : eventsOf j (more.map (i, ·)) = [] :=
        eventsOf_eq_nil fun entry he => by
          obtain ⟨event, _, rfl⟩ := List.mem_map.mp he
          exact Ne.symm hj
      rwa [eventsOf_append, hnone, List.append_nil]

theorem turnEvents_of_emitAll {turn : Turn σ} (now : Telemetry) {more : List Event}
    (hnow : now.events = traffic.telemetry.events)
    (h : (traffic.turn turn).telemetry = now.emitAll more) :
    traffic.turnEvents turn = more.map (traffic.owner turn, ·) := by
  simp [Traffic.turnEvents, h, hnow]

variable (hhooks : ∀ on, ¬ layer.HooksUse (.setRecording on))

include hhooks

theorem use (h : Isolated layer t lanes traffic history) (i : Nat) (use : Use) :
    Isolated layer t (Lane.note lanes (.use i use)) (traffic.turn (.use i use))
      (history ++ traffic.turnEvents (.use i use)) := by
  cases hfound : lanes[i]? with
  | none =>
    have hnone : traffic.exchanges[i]? = none := by
      rw [List.getElem?_eq_none_iff] at hfound ⊢
      exact h.length ▸ hfound
    have hlanes : Lane.note lanes (.use i use) = lanes :=
      List.modify_eq_self (List.getElem?_eq_none_iff.mp hfound)
    have hturn := traffic.turn_use_of_none hnone use
    have hquiet : traffic.turnEvents (.use i use) = [] := by simp [Traffic.turnEvents, hturn]
    rw [hlanes, hturn, hquiet, List.append_nil]
    exact h
  | some lane =>
    obtain ⟨exchange, hexchange, hfollows⟩ := h.each i lane hfound
    obtain ⟨more, hmore, hused⟩ := hfollows.use hhooks use h.surroundings
    have hturn := traffic.turn_use hexchange use
    have htelemetry : (traffic.turn (.use i use)).telemetry = traffic.telemetry.emitAll more := by
      rw [hturn, ← hmore]
      rfl
    have hevents : traffic.turnEvents (.use i use) = more.map (i, ·) :=
      turnEvents_of_emitAll traffic.telemetry rfl htelemetry
    obtain ⟨hi, _⟩ := List.getElem?_eq_some_iff.mp hexchange
    rw [hevents]
    refine h.moves traffic.telemetry rfl ?_ rfl htelemetry ?_ ?_ ?_ ?_ ?_ ?_ hused
    · rw [hturn, h.numbers]
      simp [Traffic.advance]
    · simp [hturn, Traffic.advance, Lane.note, h.length]
    · simp [Lane.note]
    · exact fun j hj => List.getElem?_modify_ne _ _ (Ne.symm hj)
    · intro j hj
      rw [hturn]
      exact List.getElem?_set_ne (Ne.symm hj)
    · simp [Lane.note, hfound]
    · rw [hturn]
      exact List.getElem?_set_self hi

theorem call (htracer : ∀ exporting own, layer.tracer ≠ .distributed exporting own)
    (h : Isolated layer t lanes traffic history) {app : Application σ} (happ : app.IsSecluded)
    (environ : Environ) (server : Server) (limit : Nat) :
    let turn : Turn σ := .call (layer.wrap app) environ server limit
    Isolated layer t (Lane.note lanes turn) (traffic.turn turn)
      (history ++ traffic.turnEvents turn) := by
  intro turn
  obtain ⟨more, hmore, hfollows⟩ := Follows.of_call hhooks htracer happ environ server limit
    h.surroundings h.numbers
  let ran := ((layer.wrap app).call environ).run server traffic.telemetry
  have hturn : traffic.turn turn =
      { telemetry := ran.2.2
        exchanges := traffic.exchanges ++
          [{ app := layer.wrap app, state := ran.1.2, server := ran.2.1, limit }] } := rfl
  have htelemetry : (traffic.turn turn).telemetry =
      (layer.tracer.count traffic.telemetry).emitAll more := by
    rw [hturn]
    exact hmore
  have hevents : traffic.turnEvents turn = more.map (lanes.length, ·) := by
    rw [turnEvents_of_emitAll (layer.tracer.count traffic.telemetry) rfl htelemetry, ← h.length]
    rfl
  have hnone : eventsOf lanes.length history = [] :=
    eventsOf_eq_nil fun entry he => Nat.ne_of_lt (h.owners entry he)
  rw [hevents]
  have hlater {α : Type} (entries : List α) (entry : α) (j : Nat) (hj : j ≠ entries.length) :
      (entries ++ [entry])[j]? = entries[j]? := by
    simp only [List.getElem?_append]
    split
    · rfl
    · rename_i hge
      rw [List.getElem?_eq_none (by simp; omega), List.getElem?_eq_none (by omega)]
  refine h.moves (layer.tracer.count traffic.telemetry) rfl ?_ rfl htelemetry ?_ ?_ ?_ ?_ ?_ ?_
    (by rw [hnone, ← h.length]; exact hfollows)
  · rw [hturn, List.length_append, Nat.add_mul, ← Nat.add_assoc, ← h.numbers]
    simp [Tracer.count]
  · simp [hturn, turn, Lane.note, h.length]
  · simp [turn, Lane.note]
  · exact fun j hj => hlater lanes _ j hj
  · exact fun j hj => hlater traffic.exchanges _ j (h.length ▸ hj)
  · simp [turn, Lane.note]
  · simp [hturn, ← h.length, ran]

theorem turnAll (htracer : ∀ exporting own, layer.tracer ≠ .distributed exporting own)
    (h : Isolated layer t lanes traffic history) {turns : List (Turn σ)}
    (hwithin : ∀ turn ∈ turns, turn.IsWithin layer) :
    Isolated layer t (turns.foldl Lane.note lanes) (traffic.turnAll turns)
      (history ++ traffic.history turns) := by
  induction turns generalizing lanes traffic history with
  | nil => simpa [Traffic.history] using h
  | cons turn turns ih =>
    obtain ⟨hfirst, hturns⟩ := List.forall_mem_cons.mp hwithin
    have hnext : Isolated layer t (Lane.note lanes turn) (traffic.turn turn)
        (history ++ traffic.turnEvents turn) := by
      cases turn with
      | call app environ server limit =>
        obtain ⟨inner, hinner, rfl⟩ := hfirst
        exact h.call hhooks htracer hinner environ server limit
      | use i use => exact h.use hhooks i use
    simpa [Traffic.history] using ih hnext hturns

end Isolated

namespace Session

variable {layer : Layer} {t : Telemetry}
  (htracer : ∀ exporting own, layer.tracer ≠ .distributed exporting own)
  (hhooks : ∀ on, ¬ layer.HooksUse (.setRecording on)) {steps : List (SessionStep σ)}
  (hwithin : ∀ app environ server limit, .call app environ server limit ∈ steps →
    ∃ inner : Application σ, inner.IsSecluded ∧ app = layer.wrap inner)

include htracer hhooks hwithin

theorem ComesOf.isolated {last : Session σ}
    (h : ({ telemetry := t } : Session σ).ComesOf steps last) :
    ∃ turns, Isolated layer t (Lane.ofTurns turns) last.traffic
      (Traffic.history { telemetry := t } turns) := by
  obtain ⟨turns, hlast, hcalls⟩ := h
  have hturns : ∀ turn ∈ turns, Turn.IsWithin layer turn := by
    intro turn hturn
    cases turn with
    | call app environ server limit =>
      exact hwithin app environ server limit (hcalls app environ server limit hturn)
    | use i use => trivial
  rw [hlast]
  exact ⟨turns, (Isolated.start layer t).turnAll hhooks htracer hturns⟩

/-- Whatever steps a session makes, its requests stand as if each had been served alone, also when
the session ends. -/
theorem run_isolated :
    let start : Session σ := { telemetry := t }
    let last := steps.foldl (fun session step => (session.step step).2) start
    (∃ turns, Isolated layer t (Lane.ofTurns turns) last.traffic
      (Traffic.history { telemetry := t } turns)) ∧
    ∃ turns, Isolated layer t (Lane.ofTurns turns) last.finish.traffic
      (Traffic.history { telemetry := t } turns) := by
  intro start last
  obtain ⟨hlast, hfinish⟩ := start.run_comesOf steps
  exact ⟨hlast.isolated htracer hhooks hwithin, hfinish.isolated htracer hhooks hwithin⟩

end Session

end RequestTracing
