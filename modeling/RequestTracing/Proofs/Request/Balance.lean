import RequestTracing.Proofs.Request.Accounts
/-!
The balance of the active requests: the sum of all changes with some labels. A request that lasts is
in the balance once, and one that is settled is not.
-/
namespace RequestTracing

/-- By how much an event changes the number of active requests. -/
def Event.delta? : Event → Option Int
  | .active delta _ | .gauge _ _ delta => some delta
  | _ => none

def Event.isChange (event : Event) : Bool :=
  event.delta?.isSome

theorem Event.isChange_of_not_isMetric {event : Event} (h : event.isMetric = false) :
    event.isChange = false := by
  cases event <;> simp_all [isMetric, isChange, delta?]

namespace Meter

variable (meter : Meter) (labels other : Attributes)

/-- Whether two sets of labels are shown alike. -/
def showsAlike : Bool :=
  match meter with
  | .observer => labels == other
  | .instruments => labelTexts labels == labelTexts other

/-- The change of the number of active requests with exactly some labels that an event shows. -/
def change (event : Event) : Int :=
  match event.delta? with
  | some delta => if event = meter.active delta labels then delta else 0
  | none => 0

/-- The sum of all changes of the number of active requests with exactly some labels. -/
def balance (events : List Event) : Int :=
  events.foldr (fun event total => meter.change labels event + total) 0

@[simp] theorem isChange_active (delta : Int) : (meter.active delta labels).isChange = true := by
  cases meter <;> rfl

@[simp] theorem isChange_duration (value : Option Nat) :
    (meter.duration value labels).isChange = false := by
  cases meter <;> rfl

theorem change_active (delta : Int) :
    meter.change labels (meter.active delta other) =
      if meter.showsAlike other labels then delta else 0 := by
  cases meter with
  | observer => simp [change, active, Event.delta?, showsAlike]
  | instruments => simp [change, active, Event.delta?, showsAlike]

@[simp] theorem balance_nil : meter.balance labels [] = 0 := rfl

@[simp] theorem balance_cons (event : Event) (events : List Event) :
    meter.balance labels (event :: events) =
      meter.change labels event + meter.balance labels events := rfl

theorem balance_filter (events : List Event) :
    meter.balance labels (events.filter Event.isChange) = meter.balance labels events := by
  induction events with
  | nil => rfl
  | cons event events ih =>
    cases hchange : event.isChange with
    | true => simp [hchange, ih]
    | false =>
      have hnone : event.delta? = none := by simpa [Event.isChange] using hchange
      simp [hchange, ih, change, hnone]

theorem balance_of_changes {events : List Event} {discounted : Bool}
    (h : events.filter Event.isChange =
      meter.active 1 other :: if discounted then [meter.active (-1) other] else []) :
    meter.balance labels events =
      if !discounted && meter.showsAlike other labels then 1 else 0 := by
  rw [← balance_filter, h]
  cases discounted <;> cases hshows : meter.showsAlike other labels <;> simp [change_active, hshows]

/-- It is discounted after it was counted, so that no first part of its events has a negative
balance. -/
theorem balance_nonneg_of_prefix {events start : List Event} {discounted : Bool}
    (h : events.filter Event.isChange =
      meter.active 1 other :: if discounted then [meter.active (-1) other] else [])
    (hstart : start <+: events) : 0 ≤ meter.balance labels start := by
  have hfiltered := hstart.filter Event.isChange
  rw [h, List.prefix_cons_iff] at hfiltered
  rw [← balance_filter]
  rcases hfiltered with hnone | ⟨rest, hrest, hprefix⟩
  · simp [hnone]
  · have hbalance : meter.balance labels rest = 0 ∨
        meter.balance labels rest = meter.change labels (meter.active (-1) other) := by
      cases discounted with
      | false => exact .inl (by rw [List.prefix_nil.mp hprefix, balance_nil])
      | true =>
        rcases List.prefix_cons_iff.mp hprefix with rfl | ⟨last, rfl, hlast⟩
        · exact .inl rfl
        · exact .inr (by simp [List.prefix_nil.mp hlast])
    rw [hrest, balance_cons]
    rcases hbalance with hbalance | hbalance <;> rw [hbalance] <;> simp only [change_active] <;>
      split <;> decide

end Meter

namespace Layer

variable {layer : Layer} {environ : Environ}

theorem filter_isChange_of_not_isMetric {events : List Event}
    (h : ∀ event ∈ events, event.isMetric = false) : events.filter Event.isChange = [] :=
  List.filter_eq_nil_iff.mpr fun event he => by simp [Event.isChange_of_not_isMetric (h event he)]

theorem IsCount.filter_isChange {events : List Event} (h : layer.IsCount environ events) :
    events.filter Event.isChange = [layer.meter.active 1 (layer.activeLabels environ)] := by
  obtain ⟨before, after, rfl, hquiet⟩ := h
  rw [List.filter_append, List.filter_cons,
    filter_isChange_of_not_isMetric fun event he => hquiet event (List.mem_append_left _ he),
    filter_isChange_of_not_isMetric fun event he => hquiet event (List.mem_append_right _ he)]
  simp

/-- A request is counted when it is taken up and discounted when it is settled, with the same
labels. -/
theorem serve_changes {σ : Type} (layer : Layer) {app : Application σ} (happ : app.OnlyReports)
    (environ : Environ) (uses : List Use) (server : Server) (t : Telemetry) :
    let service := (layer.wrap app).serve environ uses server t
    ∃ events, service.telemetry.events = t.events ++ events ∧
      events.filter Event.isChange = layer.meter.active 1 (layer.activeLabels environ) ::
        (if !service.state.isOpen then [layer.meter.active (-1) (layer.activeLabels environ)]
          else []) ∧
      (service.state.isOpen = true →
        service.state.request.activeLabels = layer.activeLabels environ) := by
  intro service
  have hopen : service.state.isOpen = !service.isOver uses :=
    (layer.serve_life happ environ uses server t).1
  have hlast := (layer.keeps_counted environ t).serve happ environ uses server t
    (layer.opening_counted environ t server)
  rw [hopen]
  cases hover : service.isOver uses with
  | false =>
    rw [if_neg (by rw [hover]; simp)] at hlast
    obtain ⟨_, hcounted⟩ := hlast
    obtain ⟨new, hnew, hcount, _⟩ := hcounted.events
    exact ⟨new, hnew, by simpa using hcount.filter_isChange, fun _ => hcounted.activeLabels⟩
  | true =>
    rw [if_pos hover] at hlast
    obtain ⟨last, status, late, ⟨hsome, hcounted⟩, _, hevents, _, hlate⟩ := hlast
    obtain ⟨span, hspan⟩ := Option.isSome_iff_exists.mp hsome
    obtain ⟨new, hnew, hcount, _⟩ := hcounted.events
    obtain ⟨updates, ends, _, hconclude, _, hupdates, hends, _⟩ :=
      layer.conclude_events hspan status
    rw [hconclude, hnew, hcounted.activeLabels] at hevents
    refine ⟨new ++ (updates ++ (ends ++ (layer.meter.duration none last.request.durationLabels ::
      layer.meter.active (-1) (layer.activeLabels environ) :: late))), ?_, ?_, by simp⟩
    · have hcourse : service.telemetry.events = _ := hevents
      rw [hcourse]
      simp
    · have hupdated := filter_isChange_of_not_isMetric fun event he =>
        Event.isMetric_eq_false_of_isSpanUse (hupdates event he).1
      have hended := filter_isChange_of_not_isMetric fun event he =>
        Event.isMetric_eq_false_of_isSpanUse (Event.isSpanUse_of_isSpanEnd (hends event he))
      have hlater := filter_isChange_of_not_isMetric fun event he =>
        Event.isMetric_eq_false_of_isLate (hlate event he)
      simp [hcount.filter_isChange, hupdated, hended, hlater]

end Layer

end RequestTracing
