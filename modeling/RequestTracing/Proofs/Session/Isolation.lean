import RequestTracing.Proofs.Application.Script
import RequestTracing.Proofs.Request.Balance
import RequestTracing.Proofs.Session.Lanes
/-!
Isolation of the requests of a session. However their turns are interleaved, each request leaves the
events that it leaves alone, and the number of active requests is in balance at any time.
-/
namespace RequestTracing

variable {σ : Type}

def sumTo (value : Nat → Int) : Nat → Int
  | 0 => 0
  | n + 1 => sumTo value n + value n

theorem sumTo_congr {value other : Nat → Int} {n : Nat} (h : ∀ i < n, value i = other i) :
    sumTo value n = sumTo other n := by
  induction n with
  | zero => rfl
  | succ n ih =>
    rw [sumTo, sumTo, ih fun i hi => h i (Nat.lt_succ_of_lt hi), h n (Nat.lt_succ_self n)]

theorem sumTo_nonneg {value : Nat → Int} {n : Nat} (h : ∀ i < n, 0 ≤ value i) :
    0 ≤ sumTo value n := by
  induction n with
  | zero => exact Int.le_refl 0
  | succ n ih =>
    have hbefore := ih fun i hi => h i (Nat.lt_succ_of_lt hi)
    exact Int.add_nonneg hbefore (h n (Nat.lt_succ_self n))

theorem sumTo_eq_countP {α : Type} {test : α → Bool} {entries : List α} {value : Nat → Int}
    (h : ∀ i entry, entries[i]? = some entry → value i = if test entry then 1 else 0) :
    sumTo value entries.length = entries.countP test := by
  have hfirst (n : Nat) (hn : n ≤ entries.length) :
      sumTo value n = (entries.take n).countP test := by
    induction n with
    | zero => rfl
    | succ n ih =>
      have hentry : entries[n]? = some entries[n] := List.getElem?_eq_getElem hn
      rw [sumTo, ih (Nat.le_of_succ_le hn), h n _ hentry, List.take_add_one, hentry,
        List.countP_append, Option.toList_some, List.countP_singleton]
      split <;> simp
  rw [hfirst entries.length (Nat.le_refl _), List.take_length]

def Exchange.isActive (meter : Meter) (labels : Attributes) (exchange : Exchange σ) : Bool :=
  exchange.state.isOpen && meter.showsAlike exchange.state.request.activeLabels labels

namespace Event

@[simp] theorem isChange_renumber (shift : Nat) (event : Event) :
    (event.renumber shift).isChange = event.isChange := by
  cases event <;> rfl

theorem filter_isChange_renumber (shift : Nat) (events : List Event) :
    (events.map (renumber shift)).filter isChange = events.filter isChange := by
  induction events with
  | nil => rfl
  | cons event events ih =>
    cases hchange : event.isChange with
    | false => simpa [hchange] using ih
    | true =>
      have hmetric : event.isMetric = true := by
        cases event <;> simp_all [isChange, delta?, isMetric]
      simpa [hchange, renumber_of_isMetric shift hmetric] using ih

end Event

namespace Meter

variable (meter : Meter) (labels : Attributes)

/-- The events of one request can be taken apart from those of all others. -/
theorem balance_partition (i : Nat) (history : List (Nat × Event)) :
    meter.balance labels (history.map (·.2)) =
      meter.balance labels ((history.filter (·.1 ≠ i)).map (·.2)) +
        meter.balance labels (eventsOf i history) := by
  induction history with
  | nil => rfl
  | cons entry history ih =>
    by_cases howner : entry.1 = i
    · simp [eventsOf, howner] at ih ⊢
      omega
    · simp [eventsOf, howner] at ih ⊢
      omega

theorem balance_history {n : Nat} {history : List (Nat × Event)}
    (h : ∀ entry ∈ history, entry.1 < n) :
    meter.balance labels (history.map (·.2)) =
      sumTo (fun i => meter.balance labels (eventsOf i history)) n := by
  induction n generalizing history with
  | zero =>
    cases history with
    | nil => rfl
    | cons entry history => exact absurd (h entry List.mem_cons_self) (Nat.not_lt_zero _)
  | succ n ih =>
    -- The last request is taken out of the history; what is left has one request less.
    let others := history.filter (·.1 ≠ n)
    have hothers : ∀ entry ∈ others, entry.1 < n := fun entry he => by
      obtain ⟨hmem, hne⟩ := List.mem_filter.mp he
      have hlt := h entry hmem
      simp at hne
      omega
    have hsame (i : Nat) (hi : i < n) : eventsOf i others = eventsOf i history := by
      have hne : i ≠ n := Nat.ne_of_lt hi
      unfold eventsOf
      rw [List.filterMap_filter]
      congr 1
      funext entry
      by_cases howner : entry.1 = i <;> simp [howner, hne]
    rw [meter.balance_partition labels n history, ih hothers, sumTo,
      sumTo_congr fun i hi => by rw [hsame i hi]]

end Meter

variable {layer : Layer} {t : Telemetry}

theorem Follows.changes {shift : Nat} {lane : Lane σ} {exchange : Exchange σ} {events : List Event}
    (h : Follows layer t shift lane exchange events) :
    ∃ labels, events.filter Event.isChange = layer.meter.active 1 labels ::
        (if !exchange.state.isOpen then [layer.meter.active (-1) labels] else []) ∧
      (exchange.state.isOpen = true → exchange.state.request.activeLabels = labels) := by
  obtain ⟨app, happ, hwraps⟩ := h.wraps
  obtain ⟨own, hown, hevents⟩ := h.events
  obtain ⟨others, hothers, hchanges, hlabels⟩ :=
    layer.serve_changes happ.onlyReports lane.environ lane.uses lane.server t
  rw [← hwraps] at hothers hchanges hlabels
  obtain rfl : own = others := List.append_cancel_left (hown.symm.trans hothers)
  refine ⟨layer.activeLabels lane.environ, ?_, ?_⟩
  · rw [hevents, Event.filter_isChange_renumber, h.state]
    exact hchanges
  · rw [h.state]
    exact hlabels

namespace Isolated

variable {lanes : List (Lane σ)} {traffic : Traffic σ} {history : List (Nat × Event)}
  (h : Isolated layer t lanes traffic history) (labels : Attributes)

include h

theorem balance_eq : layer.meter.balance labels (history.map (·.2)) =
    traffic.exchanges.countP (·.isActive layer.meter labels) := by
  rw [layer.meter.balance_history labels h.owners, ← h.length]
  apply sumTo_eq_countP
  intro i exchange hexchange
  obtain ⟨lane, hlane⟩ : ∃ lane, lanes[i]? = some lane := by
    obtain ⟨hi, _⟩ := List.getElem?_eq_some_iff.mp hexchange
    exact ⟨_, List.getElem?_eq_getElem (h.length ▸ hi)⟩
  obtain ⟨found, hfound, hfollows⟩ := h.each i lane hlane
  obtain rfl : exchange = found := Option.some.inj (hexchange.symm.trans hfound)
  obtain ⟨shown, hchanges, hlabels⟩ := hfollows.changes
  rw [layer.meter.balance_of_changes labels shown hchanges]
  cases hopen : exchange.state.isOpen with
  | false => simp [Exchange.isActive, hopen]
  | true => simp [Exchange.isActive, hopen, hlabels hopen]

theorem balance_nonneg {start : List (Nat × Event)} (hstart : start <+: history) :
    0 ≤ layer.meter.balance labels (start.map (·.2)) := by
  have howners : ∀ entry ∈ start, entry.1 < lanes.length := fun entry he =>
    h.owners entry (hstart.subset he)
  rw [layer.meter.balance_history labels howners]
  apply sumTo_nonneg
  intro i hi
  have hlane := List.getElem?_eq_getElem hi
  obtain ⟨exchange, _, hfollows⟩ := h.each i _ hlane
  obtain ⟨shown, hchanges, _⟩ := hfollows.changes
  exact layer.meter.balance_nonneg_of_prefix labels shown hchanges (hstart.filterMap _)

end Isolated

/-- However the turns of requests are interleaved, each request stands as if it had been served
alone, and has left the same events up to the number of its span. The changes of the number of
active requests with some labels add up to the number of requests with these labels that last; the
sum is never negative, and is zero when all requests are settled. Hooks may update the span of their
own request in any way, but not turn the keeping of updates on or off for all. -/
theorem Traffic.turnAll_isolated
    (htracer : ∀ exporting own, layer.tracer ≠ .distributed exporting own)
    (hhooks : ∀ on, ¬ layer.HooksUse (.setRecording on)) {turns : List (Turn σ)}
    (hwithin : ∀ turn ∈ turns, turn.IsWithin layer) (t : Telemetry) :
    let traffic : Traffic σ := turnAll { telemetry := t } turns
    let history := Traffic.history { telemetry := t } turns
    let lanes := Lane.ofTurns turns
    traffic.telemetry.events = t.events ++ history.map (·.2) ∧
    traffic.exchanges.length = lanes.length ∧
    (∀ i lane, lanes[i]? = some lane → ∃ exchange own, traffic.exchanges[i]? = some exchange ∧
      (lane.alone t).telemetry.events = t.events ++ own ∧
      eventsOf i history = own.map (Event.renumber (i * layer.tracer.width)) ∧
      exchange.state = (lane.alone t).state.renumber (i * layer.tracer.width) ∧
      exchange.server = (lane.alone t).server) ∧
    ∀ labels, layer.meter.balance labels (history.map (·.2)) =
        traffic.exchanges.countP (·.isActive layer.meter labels) ∧
      (∀ start, start <+: history → 0 ≤ layer.meter.balance labels (start.map (·.2))) ∧
      ((∀ exchange ∈ traffic.exchanges, exchange.state.isOpen = false) →
        layer.meter.balance labels (history.map (·.2)) = 0) := by
  intro traffic history lanes
  have hall : Isolated layer t lanes traffic history :=
    (Isolated.start layer t).turnAll hhooks htracer hwithin
  refine ⟨hall.events, hall.length, fun i lane hlane => ?_, fun labels =>
    ⟨hall.balance_eq labels, fun start hstart => hall.balance_nonneg labels hstart,
      fun hsettled => ?_⟩⟩
  · obtain ⟨exchange, hexchange, hfollows⟩ := hall.each i lane hlane
    obtain ⟨own, hown, hevents⟩ := hfollows.events
    exact ⟨exchange, own, hexchange, hown, hevents, hfollows.state, hfollows.server⟩
  · rw [hall.balance_eq, List.countP_eq_zero.mpr fun exchange he => by
      simp [Exchange.isActive, hsettled exchange he]]
    rfl

theorem Traffic.turnAll_isolated_talkative :
    let app := Layer.observing.wrap (Script.application "request" Script.talkative)
    let turns : List (Turn ScriptState) :=
      [.call app .empty { request := "first" } 4, .call app .empty { request := "second" } 4,
        .use 1 .next, .use 0 .next, .use 1 .close, .use 1 (.respond { status := "404 Gone" })]
    let history := Traffic.history {} turns
    let second : Lane ScriptState :=
      { app, environ := .empty, server := { request := "second" }
        uses := [.next, .close, .respond { status := "404 Gone" }] }
    (∀ turn ∈ turns, turn.IsWithin Layer.observing) ∧
    eventsOf 1 history = (second.alone {}).telemetry.events.map (Event.renumber 1) ∧
    ∃ labels, Meter.observer.balance labels (history.map (·.2)) = 1 := by
  intro app turns history second
  have hwithin : ∀ turn ∈ turns, turn.IsWithin Layer.observing := by
    have hcall : ∃ inner : Application ScriptState, inner.IsSecluded ∧
        app = Layer.observing.wrap inner :=
      ⟨_, Script.application_isSecluded "request" Script.talkative, rfl⟩
    simp only [turns, List.forall_mem_cons]
    exact ⟨hcall, hcall, trivial, trivial, trivial, trivial, by simp⟩
  have htracer (exporting : Bool) (own : Option Propagator) :
      Layer.observing.tracer ≠ .distributed exporting own := nofun
  have hhooks (on : Bool) : ¬ Layer.observing.HooksUse (.setRecording on) := fun hused => by
    obtain ⟨value, hvalue⟩ := Layer.observing_hooksUse hused
    contradiction
  obtain ⟨_, _, hlanes, hbalance⟩ := Traffic.turnAll_isolated htracer hhooks hwithin {}
  obtain ⟨exchange, own, _, hown, hevents, _⟩ := hlanes 1 second rfl
  refine ⟨hwithin, ?_, Layer.observing.activeLabels .empty, ?_⟩
  · have hall : (second.alone {}).telemetry.events = own := hown
    rw [hall]
    exact hevents
  · obtain ⟨hactive, _⟩ := hbalance (Layer.observing.activeLabels .empty)
    have hone : (Traffic.turnAll {} turns).exchanges.countP
        (·.isActive .observer (Layer.observing.activeLabels .empty)) = 1 := by decide
    exact hactive.trans (congrArg Int.ofNat hone)

end RequestTracing
