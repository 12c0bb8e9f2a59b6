import RequestTracing.Proofs.Nest.Footprint
import RequestTracing.Proofs.Nest.Trace
/-!
The spans of a request within layers last until it is over, and then they are exported from the
inside out: each one as soon as its layer has settled the request.
-/
namespace RequestTracing

open Program

/-- Whether spans at some places, the outermost first, are exported from the inside out. Those that
are not sampled are left out. -/
def Exports (places : List Place) (before after : List ExportedSpan) : Prop :=
  ∃ spans, after = before ++ spans ∧ spans.map ExportedSpan.place =
    (places.filter fun place => place.context.isSampled).reverse

theorem Exports.nil (spans : List ExportedSpan) : Exports [] spans spans :=
  ⟨[], by simp, rfl⟩

theorem Exports.around {place : Place} {inner : List Place} {first second last : List ExportedSpan}
    (h : Exports inner first second) (hown : Exports [place] second last) :
    Exports (place :: inner) first last := by
  obtain ⟨spans, rfl, hspans⟩ := h
  obtain ⟨more, rfl, hmore⟩ := hown
  refine ⟨spans ++ more, by rw [List.append_assoc], ?_⟩
  rw [List.map_append, hspans, hmore]
  cases hsampled : place.context.isSampled <;> simp [hsampled]

/-- Whether an application exports the spans at its places when a request is over, and no span
before. -/
structure Application.Continues {σ : Type} (app : Application σ)
    (places : Environ → Telemetry → List Place) (Open : List Place → σ → Prop)
    (Closed : σ → Prop) : Prop where
  call : ∀ environ t, (app.call environ).Leads Telemetry.traced (fun w result =>
    if result.1.isNone then w.exported = t.exported ∧ Open (places environ t) result.2
    else Exports (places environ t) t.exported w.exported ∧ Closed result.2) t.traced
  use : ∀ {places state}, Open places state → ∀ use v,
    (app.use use state).Leads Telemetry.traced (fun w result =>
      if use.isLast result.1 then Exports places v.exported w.exported ∧ Closed result.2
      else w.exported = v.exported ∧ Open places result.2) v
  late : ∀ {state}, Closed state → ∀ use v,
    (app.use use state).Leads Telemetry.traced (fun w result =>
      w.exported = v.exported ∧ Closed result.2) v

namespace Application.Continues

variable {σ : Type} {app : Application σ} {places : Environ → Telemetry → List Place}
  {Open : List Place → σ → Prop} {Closed : σ → Prop} (h : app.Continues places Open Closed)

include h

theorem next_leads {all : List Place} {state : σ} (hopen : Open all state) (v : Telemetry) :
    (app.next state).Leads Telemetry.traced (fun w result =>
      if Use.next.isLast (.item result.1) then Exports all v.exported w.exported ∧ Closed result.2
      else w.exported = v.exported ∧ Open all result.2) v := by
  refine (leads_bind.mp (h.use hopen .next v)).mono ?_
  rintro w ⟨item, after⟩ hresult
  exact hresult

theorem release_late_leads {state : σ} (hclosed : Closed state) (v : Telemetry) :
    ((app.close state).bind app.drop).Leads Telemetry.traced (fun w after =>
      w.exported = v.exported ∧ Closed after) v := by
  refine (leads_bind.mp (h.late hclosed .close v)).bind ?_
  rintro w closed ⟨hexported, hlate⟩
  refine (leads_bind.mp (h.late hlate .drop w)).mono ?_
  rintro last after ⟨hlast, hdropped⟩
  exact ⟨hlast.trans hexported, hdropped⟩

theorem release_leads {all : List Place} {state : σ} (hopen : Open all state) (v : Telemetry) :
    ((app.close state).bind app.drop).Leads Telemetry.traced (fun w after =>
      Exports all v.exported w.exported ∧ Closed after) v := by
  refine (leads_bind.mp (h.use hopen .close v)).bind ?_
  rintro w closed ⟨hexported, hclosed⟩
  refine (leads_bind.mp (h.late hclosed .drop w)).mono ?_
  rintro last after ⟨hlast, hdropped⟩
  exact ⟨hlast ▸ hexported, hdropped⟩

end Application.Continues

theorem Application.OnlyReports.use {σ : Type} {app : Application σ} (h : app.OnlyReports)
    (use : Use) (state : σ) : (app.use use state).OnlyReports := by
  cases use with
  | next => exact (h.next state).bind fun _ => trivial
  | close => exact (h.close state).bind fun _ => trivial
  | drop => exact (h.drop state).bind fun _ => trivial
  | respond start => exact (h.respond start state).bind fun _ => trivial

theorem Application.OnlyReports.continues {σ : Type} {app : Application σ} (h : app.OnlyReports) :
    app.Continues (fun _ _ => []) (fun places _ => places = []) (fun _ => True) where
  call environ t := by
    refine ((h.call environ).leads Telemetry.traced_emit).mono ?_
    rintro w result rfl
    split
    · exact ⟨rfl, rfl⟩
    · exact ⟨.nil _, trivial⟩
  use := by
    rintro _ state rfl use v
    refine ((h.use use state).leads Telemetry.traced_emit).mono ?_
    rintro w result rfl
    split
    · exact ⟨.nil _, trivial⟩
    · exact ⟨rfl, rfl⟩
  late _ use v := by
    refine ((h.use use _).leads Telemetry.traced_emit).mono ?_
    rintro w result rfl
    exact ⟨rfl, trivial⟩

namespace Layer

section Footprints

variable {layer : Layer}

theorem enter_traced (request : Request) (t : Telemetry) :
    (request.enter t).traced = t.traced.under request.currents := by
  unfold Telemetry.traced
  rw [request.enter_bare, request.enter_exported]
  rfl

theorem leave_traced (request : Request) (t : Telemetry) :
    (request.leave t).traced = t.traced.leaving request.currents := by
  unfold Telemetry.traced
  rw [request.leave_bare, request.leave_exported]
  rfl

/-- Around a request whose span stands at a place, a layer exports this span at the end. -/
theorem traced_footprint (hquiet : ¬ layer.HooksUse .finish) (place : Place) :
    layer.Footprint Telemetry.traced (·.IsAt place) (·.under [place.context])
      (·.leaving [place.context]) (fun v w => Exports [place] v.exported w.exported) where
  emit := Telemetry.traced_emit
  annotate hat start t := annotate_isAt hquiet hat start t
  enter hat t := hat.currents ▸ enter_traced _ t
  leave hat t := hat.currents ▸ leave_traced _ t
  settle hat status t := by
    obtain ⟨spans, hexported, hspans⟩ := hat.endSpan status t
    refine ⟨spans, by simpa [settle, Telemetry.emitAll_eq] using hexported, ?_⟩
    rw [hspans]
    cases hsampled : place.context.isSampled <;> simp [hsampled]

theorem traced_footprint_of_none :
    layer.Footprint Telemetry.traced (·.span = none) id id (fun v w => w = v) where
  emit := Telemetry.traced_emit
  annotate hnone start t := by
    rw [layer.annotate_of_none hnone]
    exact ⟨hnone, rfl⟩
  enter hnone t := by simp [Request.enter, hnone]
  leave hnone t := by simp [Request.leave, hnone]
  settle hnone status t := by simp [settle, Request.endSpan, hnone, Telemetry.emitAll]

end Footprints

variable {σ : Type} {own : Option Propagator}

section Around

/-- Whether a request lasts in one more layer, with its own span at the first of some places. -/
def Outlasts (Open : List Place → σ → Prop) (all : List Place) (body : Traced σ) : Prop :=
  ∃ place rest, all = place :: rest ∧ body.request.IsAt place ∧ body.isOpen = true ∧
    Open rest body.inner

def EndedAround (Closed : σ → Prop) (body : Traced σ) : Prop :=
  body.request.span = none ∧ body.isOpen = false ∧ Closed body.inner

variable {layer : Layer} (hquiet : ¬ layer.HooksUse .finish) {app : Application σ}
  {inner : Environ → Telemetry → List Place} {Open : List Place → σ → Prop} {Closed : σ → Prop}
  (h : app.Continues inner Open Closed)

include h

/-- Once a request has ended, a way to start the response exports nothing. -/
theorem respond_continues_late {body : Traced σ} (hbody : EndedAround Closed body)
    (start : ResponseStart) (v : Telemetry) :
    ((layer.wrap app).respond start body).Leads Telemetry.traced (fun w result =>
      w.exported = v.exported ∧ EndedAround Closed result.2) v := by
  obtain ⟨hspan, hclosed, hinner⟩ := hbody
  refine (traced_footprint_of_none.respond_leads hspan
    (leads_bind.mp (h.late hinner (.respond start) v))).mono ?_
  rintro w ⟨answer, after⟩ ⟨⟨hsame, hstate⟩, hrequest, hheld⟩
  exact ⟨hsame, hrequest, hheld.trans hclosed, hstate⟩

include hquiet

/-- The call of an application within one more layer exports nothing, unless the application
fails. -/
theorem call_continues (htracer : layer.tracer = .distributed true own) (environ : Environ)
    (t : Telemetry) :
    (layer.call app environ).Leads Telemetry.traced (fun w result =>
      let all := layer.place own environ t :: inner environ (layer.entry environ t)
      if result.1.isNone then w.exported = t.exported ∧ Outlasts Open all result.2
      else Exports all t.exported w.exported ∧ EndedAround Closed result.2) t.traced := by
  have hentry : (layer.begin environ t).2.traced.under [(layer.place own environ t).context] =
      (layer.entry environ t).traced := by
    rw [← (begin_isAt hquiet htracer environ t).currents]
    exact (enter_traced _ _).symm
  have hexported : (layer.entry environ t).exported = t.exported :=
    (Request.enter_exported _ _).trans (begin_exported hquiet environ t)
  refine (traced_footprint hquiet (layer.place own environ t)).call_leads ?_
    (hentry ▸ h.call environ (layer.entry environ t)) ?_ ?_
  · intro other hother
    obtain ⟨hbare, hsame⟩ := Telemetry.traced_eq_iff.mp hother
    refine ⟨layer.place_congr own environ hbare ▸ begin_isAt hquiet htracer environ other,
      Telemetry.traced_eq_iff.mpr ⟨(layer.begin_congr environ hbare).2, ?_⟩⟩
    rw [begin_exported hquiet, begin_exported hquiet, hsame]
  · rintro w request state hat ⟨hsame, hinner⟩
    exact ⟨hsame.trans hexported, _, _, rfl, hat, rfl, hinner⟩
  · rintro w failure request state last hspan ⟨hinner, hlast⟩ hown
    exact ⟨(hexported ▸ hinner).around hown, hspan, rfl, hlast⟩

variable {all : List Place} {body : Traced σ} (hbody : Outlasts Open all body) (v : Telemetry)

include hbody

/-- A body that is let go of within one more layer exports the spans from the inside out. -/
theorem finish_continues :
    (layer.finish app none body).Leads Telemetry.traced (fun w after =>
      Exports all v.exported w.exported ∧ EndedAround Closed after) v := by
  obtain ⟨place, rest, rfl, hat, hopen, hinner⟩ := hbody
  refine ((traced_footprint hquiet place).finish_leads hopen hat
    (h.release_leads hinner v) none).mono ?_
  rintro w after ⟨⟨last, hown, hexported, hlast⟩, hspan, hclosed⟩
  exact ⟨hexported.around hown, hspan, hclosed, hlast⟩

/-- The last chunk exports the spans from the inside out, and no other chunk exports any. -/
theorem next_continues :
    (layer.next app body).Leads Telemetry.traced (fun w result =>
      if Use.next.isLast (.item result.1) then
        Exports all v.exported w.exported ∧ EndedAround Closed result.2
      else w.exported = v.exported ∧ Outlasts Open all result.2) v := by
  obtain ⟨place, rest, rfl, hat, hopen, hinner⟩ := hbody
  refine (traced_footprint hquiet place).next_leads hopen hat
    (h.next_leads hinner (v.under [place.context])) ?_ ?_
  · rintro w chunk request state hrequest ⟨hsame, hstate⟩
    exact ⟨hsame, _, _, rfl, hrequest, rfl, hstate⟩
  · rintro w item state hlast hasked
    rw [if_pos hlast] at hasked
    obtain ⟨hexported, hstate⟩ := hasked
    refine (h.release_late_leads hstate _).mono ?_
    rintro w' after ⟨hkept, hclosed⟩ last request hspan hown
    have hall : Exports rest v.exported w'.exported := hkept ▸ hexported
    rw [if_pos hlast]
    exact ⟨hall.around hown, hspan, rfl, hclosed⟩

theorem respond_continues (start : ResponseStart) :
    ((layer.wrap app).respond start body).Leads Telemetry.traced (fun w result =>
      w.exported = v.exported ∧ Outlasts Open all result.2) v := by
  obtain ⟨place, rest, rfl, hat, hopen, hinner⟩ := hbody
  refine ((traced_footprint hquiet place).respond_leads hat
    (leads_bind.mp (h.use hinner (.respond start) v))).mono ?_
  rintro w ⟨answer, after⟩ ⟨⟨hsame, hstate⟩, hrequest, hheld⟩
  exact ⟨hsame, _, _, rfl, hrequest, hheld.trans hopen, hstate⟩

end Around

theorem wrap_continues {layer : Layer} (htracer : layer.tracer = .distributed true own)
    (hquiet : ¬ layer.HooksUse .finish) {app : Application σ}
    {inner : Environ → Telemetry → List Place} {Open : List Place → σ → Prop} {Closed : σ → Prop}
    (h : app.Continues inner Open Closed) :
    (layer.wrap app).Continues
      (fun environ t => layer.place own environ t :: inner environ (layer.entry environ t))
      (Outlasts Open) (EndedAround Closed) where
  call environ t := call_continues hquiet h htracer environ t
  use hbody use v := by
    cases use with
    | next => exact (next_continues hquiet h hbody v).bind fun _ _ hafter => hafter
    | close => exact (finish_continues hquiet h hbody v).bind fun _ _ hafter => hafter
    | drop => exact (finish_continues hquiet h hbody v).bind fun _ _ hafter => hafter
    | respond start =>
      exact (respond_continues hquiet h hbody v start).bind fun _ _ hafter => hafter
  late := by
    rintro body hbody use v
    refine layer.wrap_use_of_closed hbody.2.1 (fun _ => ⟨rfl, hbody⟩) ?_
    rintro start rfl
    exact (respond_continues_late h hbody start v).bind fun _ _ hafter => hafter

/-- Whether the spans of a request within layers last and stand at some places, the outermost
first. -/
def Stands : (layers : List Layer) → List Place → Nested σ layers → Prop
  | [], places, _ => places = []
  | _ :: layers, places, (body : Traced (Nested σ layers)) => ∃ place rest, places = place :: rest ∧
    body.request.IsAt place ∧ body.isOpen = true ∧ Stands layers rest body.inner

def Ended : (layers : List Layer) → Nested σ layers → Prop
  | [], _ => True
  | _ :: layers, (body : Traced (Nested σ layers)) =>
    body.request.span = none ∧ body.isOpen = false ∧ Ended layers body.inner

/-- Layers around an application that only reports export their spans from the inside out. -/
theorem wrapAll_continues {layers : List Layer}
    (htracer : ∀ layer ∈ layers, layer.tracer = .distributed true own)
    (hquiet : ∀ layer ∈ layers, ¬ layer.HooksUse .finish) {app : Application σ}
    (happ : app.OnlyReports) :
    (wrapAll layers app).Continues (places own layers) (Stands layers) (Ended layers) := by
  induction layers with
  | nil => exact happ.continues
  | cons layer layers ih =>
    obtain ⟨hlayer, hlayers⟩ := List.forall_mem_cons.mp htracer
    obtain ⟨hhooks, hothers⟩ := List.forall_mem_cons.mp hquiet
    exact wrap_continues hlayer hhooks (ih hlayers hothers)

end Layer

namespace Application.Continues

variable {σ : Type} {app : Application σ} {places : Environ → Telemetry → List Place}
  {Open : List Place → σ → Prop} {Closed : σ → Prop} (h : app.Continues places Open Closed)

include h

theorem useAll_late (uses : List Use) {state : σ} (hclosed : Closed state) (v : Telemetry) :
    (app.useAll uses state).Leads Telemetry.traced (fun w result =>
      w.exported = v.exported ∧ Closed result.2) v := by
  induction uses generalizing state v with
  | nil => exact ⟨rfl, hclosed⟩
  | cons use uses ih =>
    refine (h.late hclosed use v).bind ?_
    rintro w ⟨outcome, after⟩ ⟨hsame, hlate⟩
    refine (ih hlate w).bind ?_
    rintro last ⟨outcomes, final⟩ ⟨hlast, hfinal⟩
    exact ⟨hlast.trans hsame, hfinal⟩

/-- The spans are exported with the last use, and no use changes anything about them after that. -/
theorem useAll (uses : List Use) {all : List Place} {state : σ} (hopen : Open all state)
    (v : Telemetry) :
    (app.useAll uses state).Leads Telemetry.traced (fun w result =>
      if (uses.zip result.1).any fun (use, outcome) => use.isLast outcome then
        Exports all v.exported w.exported ∧ Closed result.2
      else w.exported = v.exported ∧ Open all result.2) v := by
  induction uses generalizing state v with
  | nil => exact ⟨rfl, hopen⟩
  | cons use uses ih =>
    refine (h.use hopen use v).bind ?_
    rintro w ⟨outcome, after⟩ hafter
    cases hlast : use.isLast outcome with
    | true =>
      -- All uses that follow the last one are late.
      rw [if_pos hlast] at hafter
      refine (h.useAll_late uses hafter.2 w).bind ?_
      rintro last ⟨outcomes, final⟩ ⟨hsame, hfinal⟩
      refine leads_pure.mpr ?_
      rw [if_pos (by simp [hlast]), hsame]
      exact ⟨hafter.1, hfinal⟩
    | false =>
      rw [if_neg (by simp [hlast])] at hafter
      refine (ih hafter.2 w).bind ?_
      rintro last ⟨outcomes, final⟩ hfinal
      have hrest : (((use :: uses).zip (outcome :: outcomes)).any
          fun (use, outcome) => use.isLast outcome) =
            (uses.zip outcomes).any fun (use, outcome) => use.isLast outcome := by
        simp [hlast]
      refine leads_pure.mpr ?_
      rw [hrest, ← hafter.1]
      exact hfinal

theorem serve (environ : Environ) (uses : List Use) (server : Server) (t : Telemetry) :
    let service := app.serve environ uses server t
    if service.isOver uses then
      Exports (places environ t) t.exported service.telemetry.exported ∧ Closed service.state
    else service.telemetry.exported = t.exported ∧ Open (places environ t) service.state := by
  rcases hcall : (app.call environ).run server t with ⟨⟨failure, state⟩, called, first⟩
  rcases huses : (app.useAll uses state).run called first with ⟨⟨outcomes, after⟩, final, last⟩
  have hserve : app.serve environ uses server t =
      { failure, outcomes, state := after, server := final, telemetry := last } := by
    simp [Application.serve, hcall, huses]
  have hcalled := Leads.run Telemetry.traced_emit server t (h.call environ t)
  rw [hcall] at hcalled
  simp only [hserve, Service.isOver]
  cases failure with
  | some failure =>
    obtain ⟨hexported, hclosed⟩ := hcalled
    have hlate := Leads.run Telemetry.traced_emit called first
      (h.useAll_late uses hclosed first.traced)
    rw [huses] at hlate
    obtain ⟨hsame, hfinal⟩ : last.exported = first.exported ∧ Closed after := hlate
    exact ⟨hsame ▸ hexported, hfinal⟩
  | none =>
    obtain ⟨hexported, hopen⟩ : first.exported = t.exported ∧ Open (places environ t) state :=
      hcalled
    have hlast := Leads.run Telemetry.traced_emit called first (h.useAll uses hopen first.traced)
    rw [huses] at hlast
    rw [Option.isSome_none, Bool.false_or, ← hexported]
    exact hlast

end Application.Continues

end RequestTracing
