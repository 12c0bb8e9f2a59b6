import RequestTracing.Proofs.Nest.Footprint
import RequestTracing.Proofs.Nest.Sight
/-!
Spans are entered and left in balance. Within any number of layers, an application that is called or
asked for a chunk sees the spans of all layers current, and a body that is closed or let go of sees
what was current around the innermost layer. Afterwards the same spans are current as before.
-/
namespace RequestTracing

open Program

/-- Whether what a part of an application sees, when some part of the layers around it is run with
some spans current, is as it should be. The spans of all layers are inside, and those of all but the
innermost are outside. -/
def Sight.Fits (sight : Sight) (run : Part) (inside outside entered : List SpanContext) : Prop :=
  match run, sight.part with
  | .call, .call | .next, .next => sight.entered = inside ++ entered
  | .next, .close | .next, .drop => sight.entered = outside ++ entered
  | .close, .close | .close, .drop | .drop, .close | .drop, .drop | .respond, .respond =>
    sight.entered = entered
  | _, _ => False

theorem Sight.Fits.extend {sight : Sight} {run : Part} {inside outside entered more around :
    List SpanContext} (h : sight.Fits run inside outside around)
    (haround : around = if run = .call ∨ run = .next then more ++ entered else entered) :
    sight.Fits run (inside ++ more) (outside ++ more) entered := by
  obtain ⟨part, seen⟩ := sight
  subst haround
  cases run <;> cases part <;> simp_all [Fits]

/-- Whether a sight is one of a body that is closed or let go of with some spans current. -/
def Sight.IsRelease (sight : Sight) (entered : List SpanContext) : Prop :=
  (sight.part = .close ∨ sight.part = .drop) ∧ sight.entered = entered

/-- A body sees what is current when it is closed or let go of, and when a single layer does so. -/
theorem Sight.IsRelease.fits {sight : Sight} {run : Part} {inside outside entered :
    List SpanContext} (h : sight.IsRelease entered)
    (hrun : run = .close ∨ run = .drop ∨ run = .next ∧ outside = []) :
    sight.Fits run inside outside entered := by
  obtain ⟨hpart, rfl⟩ := h
  rcases hrun with rfl | rfl | ⟨rfl, rfl⟩ <;> rcases hpart with hpart | hpart <;>
    simp [Fits, hpart]

theorem Sight.Fits.isRelease {sight : Sight} {inside outside entered : List SpanContext}
    (h : sight.Fits .close inside outside entered) : sight.IsRelease entered := by
  obtain ⟨part, seen⟩ := sight
  cases part <;> simp_all [Fits, IsRelease]

namespace Layer

/-- The spans that layers make current one within the other for a request, the latest first. -/
def currents : List Layer → Environ → Telemetry → List SpanContext
  | [], _, _ => []
  | layer :: layers, environ, t =>
    currents layers environ (layer.entry environ t) ++ (layer.begin environ t).1.currents

end Layer

/-- Whether a state has, besides what it had before, sights of some kind. -/
def Sees {σ : Type} (seen : σ → List Sight) (P : Sight → Prop) (before after : σ) : Prop :=
  ∃ more, seen after = seen before ++ more ∧ ∀ sight ∈ more, P sight

namespace Sees

variable {σ : Type} {seen : σ → List Sight} {P R : Sight → Prop} {first second third : σ}

theorem refl (state : σ) : Sees seen P state state :=
  ⟨[], by simp, by simp⟩

theorem trans (h : Sees seen P first second) (rest : Sees seen P second third) :
    Sees seen P first third := by
  obtain ⟨sights, hsights, hall⟩ := h
  obtain ⟨more, hmore, hrest⟩ := rest
  refine ⟨sights ++ more, by rw [hmore, hsights, List.append_assoc], fun sight hsight => ?_⟩
  exact (List.mem_append.mp hsight).elim (hall sight) (hrest sight)

theorem mono (h : Sees seen P first second) (himp : ∀ sight, P sight → R sight) :
    Sees seen R first second := by
  obtain ⟨sights, hsights, hall⟩ := h
  exact ⟨sights, hsights, fun sight hsight => himp sight (hall sight hsight)⟩

end Sees

/-- Whether an application is run with the spans current that it should be run with, and leaves
these as they are. While its body is held it is known which spans are inside and outside. -/
structure Application.Attends {σ : Type} (app : Application σ) (seen : σ → List Sight)
    (inside outside : Environ → Telemetry → List SpanContext)
    (Open : List SpanContext → List SpanContext → σ → Prop) (Closed : σ → Prop) : Prop where
  call : ∀ environ t, (app.call environ).Leads Telemetry.bare (fun w result =>
    w.entered = t.entered ∧
    (∀ sight ∈ seen result.2,
      sight.Fits .call (inside environ t) (outside environ t) t.entered) ∧
    if result.1.isNone then Open (inside environ t) (outside environ t) result.2
      else Closed result.2) t.bare
  use : ∀ {inside outside state}, Open inside outside state → ∀ use v,
    (app.use use state).Leads Telemetry.bare (fun w result => w.entered = v.entered ∧
      Sees seen (·.Fits use.part inside outside v.entered) state result.2 ∧
      if use.isLast result.1 then Closed result.2 else Open inside outside result.2) v
  late : ∀ {state}, Closed state → ∀ use v,
    (app.use use state).Leads Telemetry.bare (fun w result => w.entered = v.entered ∧
      Sees seen (fun sight => use.part = .respond ∧ sight = ⟨.respond, v.entered⟩) state result.2 ∧
      Closed result.2) v

namespace Layer

/-- A layer around a request that makes some spans current makes these current, and no others. -/
theorem bare_footprint (layer : Layer) (contexts : List SpanContext) :
    layer.Footprint Telemetry.bare (fun request => request.currents = contexts)
      (·.under contexts) (·.leaving contexts) (fun v w => w = v) where
  emit := Telemetry.bare_emit
  annotate := by
    rintro request rfl start t
    exact layer.annotate_bare start request t
  enter := by
    rintro request rfl t
    exact request.enter_bare t
  leave := by
    rintro request rfl t
    exact request.leave_bare t
  settle _ status t := layer.settle_bare status _ t

end Layer

namespace Application

variable {σ : Type} {app : Application σ} (happ : app.KeepsEntered)

include happ

theorem watched_next_leads (state : σ × List Sight) (v : Telemetry) :
    (app.watched.next state).Leads Telemetry.bare (fun w result => w.entered = v.entered ∧
      Sees Prod.snd (· = ⟨.next, v.entered⟩) state result.2) v := by
  refine ((happ.next state.1).watch_leads .next v).bind ?_
  rintro w ⟨⟨item, after⟩, sights⟩ ⟨hentered, hsights⟩
  exact ⟨hentered, sights, rfl, hsights⟩

theorem watched_respond_leads (start : ResponseStart) (state : σ × List Sight) (v : Telemetry) :
    (app.watched.respond start state).Leads Telemetry.bare (fun w result =>
      w.entered = v.entered ∧ Sees Prod.snd (· = ⟨.respond, v.entered⟩) state result.2) v := by
  refine ((happ.respond start state.1).watch_leads .respond v).bind ?_
  rintro w ⟨⟨answer, after⟩, sights⟩ ⟨hentered, hsights⟩
  exact ⟨hentered, sights, rfl, hsights⟩

theorem watched_release_leads (state : σ × List Sight) (v : Telemetry) :
    ((app.watched.close state).bind app.watched.drop).Leads Telemetry.bare (fun w after =>
      w.entered = v.entered ∧ Sees Prod.snd (·.IsRelease v.entered) state after) v := by
  have hclose : (app.watched.close state).Leads Telemetry.bare (fun w after =>
      w.entered = v.entered ∧ Sees Prod.snd (· = ⟨.close, v.entered⟩) state after) v := by
    refine ((happ.close state.1).watch_leads .close v).bind ?_
    rintro w ⟨after, sights⟩ ⟨hentered, hsights⟩
    exact ⟨hentered, sights, rfl, hsights⟩
  refine hclose.bind ?_
  rintro w closed ⟨hentered, hclosed⟩
  refine ((happ.drop closed.1).watch_leads .drop w).bind ?_
  rintro last ⟨after, sights⟩ ⟨hlast, hsights⟩
  rw [hentered] at hlast hsights
  refine ⟨hlast, (hclosed.mono ?_).trans ⟨sights, rfl, ?_⟩⟩
  · rintro sight rfl
    exact ⟨.inl rfl, rfl⟩
  · intro sight hsight
    rw [hsights sight hsight]
    exact ⟨.inr rfl, rfl⟩

end Application

namespace Layer

variable {σ : Type} (layer : Layer)

section Watched

variable {app : Application σ} (happ : app.KeepsEntered)

include happ

theorem call_watched (environ : Environ) (t : Telemetry) :
    (layer.call app.watched environ).Leads Telemetry.bare (fun w result =>
      let inside := currents [layer] environ t
      w.entered = t.entered ∧
      (∀ sight ∈ result.2.inner.2, sight.Fits .call inside [] t.entered) ∧
      if result.1.isNone then result.2.request.currents = inside ∧ result.2.isOpen = true
        else result.2.isOpen = false) t.bare := by
  refine (layer.bare_footprint (layer.begin environ t).1.currents).call_leads
    (C := fun w result => w.entered = (layer.entry environ t).entered ∧
      ∀ sight ∈ result.2.2, sight = ⟨.call, (layer.entry environ t).entered⟩)
    (fun other hother => layer.begin_congr environ hother) ?_ ?_ ?_
  · rw [← layer.entry_bare]
    refine ((happ.call environ).watch_leads .call _).bind ?_
    rintro w ⟨⟨failure, state⟩, sights⟩ ⟨hentered, hsights⟩
    exact ⟨hentered, hsights⟩
  · rintro w request inner hrequest ⟨hentered, hsights⟩
    rw [layer.entry_entered] at hentered hsights
    refine ⟨Telemetry.leaving_entered hentered, fun sight hsight => ?_, hrequest, rfl⟩
    rw [hsights sight hsight]
    rfl
  · rintro w failure request inner _ _ ⟨hentered, hsights⟩ rfl
    rw [layer.entry_entered] at hentered hsights
    refine ⟨Telemetry.leaving_entered hentered, fun sight hsight => ?_, rfl⟩
    rw [hsights sight hsight]
    rfl

theorem respond_watched (start : ResponseStart) (body : Traced (σ × List Sight)) (v : Telemetry) :
    ((layer.wrap app.watched).respond start body).Leads Telemetry.bare (fun w result =>
      (w.entered = v.entered ∧
        Sees Prod.snd (· = ⟨.respond, v.entered⟩) body.inner result.2.inner) ∧
      result.2.request.currents = body.request.currents ∧ result.2.isOpen = body.isOpen) v :=
  (layer.bare_footprint body.request.currents).respond_leads rfl
    (Application.watched_respond_leads happ start body.inner v)

variable {body : Traced (σ × List Sight)} (hopen : body.isOpen = true) (v : Telemetry)

include hopen

theorem finish_watched :
    (layer.finish app.watched none body).Leads Telemetry.bare (fun w after =>
      w.entered = v.entered ∧ Sees Prod.snd (·.IsRelease v.entered) body.inner after.inner ∧
        after.isOpen = false) v := by
  refine ((layer.bare_footprint body.request.currents).finish_leads hopen rfl
    (Application.watched_release_leads happ body.inner v) none).mono ?_
  rintro _ after ⟨⟨w, rfl, hentered, hreleased⟩, _, hclosed⟩
  exact ⟨hentered, hreleased, hclosed⟩

/-- A body is asked for a chunk with the span of its layer current, and released without it. -/
theorem next_watched :
    (layer.next app.watched body).Leads Telemetry.bare (fun w result =>
      w.entered = v.entered ∧
      Sees Prod.snd (·.Fits .next body.request.currents [] v.entered) body.inner
        result.2.inner ∧
      if Use.next.isLast (.item result.1) then result.2.isOpen = false
        else result.2.request.currents = body.request.currents ∧ result.2.isOpen = true) v := by
  refine (layer.bare_footprint body.request.currents).next_leads hopen rfl
    (Application.watched_next_leads happ body.inner (v.under body.request.currents)) ?_ ?_
  · rintro w chunk request inner hrequest ⟨hentered, hsees⟩
    refine ⟨Telemetry.leaving_entered hentered, hsees.mono ?_, hrequest, rfl⟩
    rintro sight rfl
    rfl
  · rintro w item inner hlast ⟨hentered, hsees⟩
    refine (Application.watched_release_leads happ inner _).mono ?_
    rintro _ after ⟨hkept, hreleased⟩ w request _ rfl
    rw [Telemetry.leaving_entered hentered] at hkept hreleased
    refine ⟨hkept, (hsees.mono ?_).trans (hreleased.mono ?_), ?_⟩
    · rintro sight rfl
      rfl
    · exact fun sight hsight => hsight.fits (.inr (.inr ⟨rfl, rfl⟩))
    · rw [if_pos hlast]

end Watched

/-- A single layer runs an application with the spans current that it should be run with. -/
theorem wrap_attends {app : Application σ} (happ : app.KeepsEntered) :
    (layer.wrap app.watched).Attends (fun body => body.inner.2) (currents [layer]) (fun _ _ => [])
      (fun inside outside body =>
        (body.request.currents = inside ∧ body.isOpen = true) ∧ outside = [])
      (fun body => body.isOpen = false) where
  call environ t := by
    refine (layer.call_watched happ environ t).mono ?_
    rintro w ⟨failure, body⟩ ⟨hentered, hsights, hbody⟩
    refine ⟨hentered, hsights, ?_⟩
    cases failure with
    | none => exact ⟨hbody, rfl⟩
    | some failure => exact hbody
  use := by
    rintro _ _ body ⟨⟨rfl, hopen⟩, rfl⟩ use v
    cases use with
    | next =>
      refine (layer.next_watched happ hopen v).bind ?_
      rintro w ⟨item, after⟩ ⟨hentered, hsees, hafter⟩
      refine ⟨hentered, hsees, ?_⟩
      split
      · rwa [if_pos ‹_›] at hafter
      · rw [if_neg ‹_›] at hafter
        exact ⟨hafter, rfl⟩
    | close =>
      refine (layer.finish_watched happ hopen v).bind ?_
      rintro w after ⟨hentered, hreleased, hclosed⟩
      exact ⟨hentered, hreleased.mono fun _ hsight => hsight.fits (.inl rfl), hclosed⟩
    | drop =>
      refine (layer.finish_watched happ hopen v).bind ?_
      rintro w after ⟨hentered, hreleased, hclosed⟩
      exact ⟨hentered, hreleased.mono fun _ hsight => hsight.fits (.inr (.inl rfl)), hclosed⟩
    | respond start =>
      refine (layer.respond_watched happ start body v).bind ?_
      rintro w ⟨answer, after⟩ ⟨⟨hentered, hsees⟩, hrequest, hafter⟩
      refine ⟨hentered, hsees.mono ?_, ⟨hrequest, hafter.trans hopen⟩, rfl⟩
      rintro sight rfl
      rfl
  late := by
    rintro body hclosed use v
    refine layer.wrap_use_of_closed hclosed (fun _ => ⟨rfl, .refl body, hclosed⟩) ?_
    rintro start rfl
    refine (layer.respond_watched happ start body v).bind ?_
    rintro w ⟨answer, after⟩ ⟨⟨hentered, hsees⟩, hrequest, hafter⟩
    exact ⟨hentered, hsees.mono fun _ hsight => ⟨rfl, hsight⟩, hafter.trans hclosed⟩

end Layer

namespace Application.Attends

variable {σ : Type} {app : Application σ} {seen : σ → List Sight}
  {inside outside : Environ → Telemetry → List SpanContext}
  {Open : List SpanContext → List SpanContext → σ → Prop} {Closed : σ → Prop}
  (h : app.Attends seen inside outside Open Closed)

include h

theorem next_leads {within around : List SpanContext} {state : σ}
    (hopen : Open within around state) (v : Telemetry) :
    (app.next state).Leads Telemetry.bare (fun w result => w.entered = v.entered ∧
      Sees seen (·.Fits .next within around v.entered) state result.2 ∧
      if Use.next.isLast (.item result.1) then Closed result.2
        else Open within around result.2) v := by
  refine (leads_bind.mp (h.use hopen .next v)).mono ?_
  rintro w ⟨item, after⟩ hresult
  exact hresult

theorem release_late_leads {state : σ} (hclosed : Closed state) (v : Telemetry) :
    ((app.close state).bind app.drop).Leads Telemetry.bare (fun w after =>
      w.entered = v.entered ∧ Sees seen (fun _ => False) state after ∧ Closed after) v := by
  refine (leads_bind.mp (h.late hclosed .close v)).bind ?_
  rintro w closed ⟨hentered, hsees, hlate⟩
  refine (leads_bind.mp (h.late hlate .drop w)).mono ?_
  rintro last after ⟨hlast, hmore, hdropped⟩
  refine ⟨hlast.trans hentered, (hsees.mono ?_).trans (hmore.mono ?_), hdropped⟩
  · rintro sight ⟨hpart, _⟩
    cases hpart
  · rintro sight ⟨hpart, _⟩
    cases hpart

theorem release_leads {within around : List SpanContext} {state : σ}
    (hopen : Open within around state) (v : Telemetry) :
    ((app.close state).bind app.drop).Leads Telemetry.bare (fun w after =>
      w.entered = v.entered ∧ Sees seen (·.IsRelease v.entered) state after ∧ Closed after) v := by
  refine (leads_bind.mp (h.use hopen .close v)).bind ?_
  rintro w closed ⟨hentered, hsees, hclosed⟩
  refine (leads_bind.mp (h.late hclosed .drop w)).mono ?_
  rintro last after ⟨hlast, hmore, hdropped⟩
  refine ⟨hlast.trans hentered, (hsees.mono fun _ => Sight.Fits.isRelease).trans (hmore.mono ?_),
    hdropped⟩
  rintro sight ⟨hpart, _⟩
  cases hpart

end Application.Attends

namespace Layer

variable {σ : Type} (layer : Layer)

section Around

/-- Whether a request lasts in one more layer, with the span of this current around those that are
current inside and outside. -/
def RunsAround (Open : List SpanContext → List SpanContext → σ → Prop)
    (within around : List SpanContext) (body : Traced σ) : Prop :=
  ∃ inner between, Open inner between body.inner ∧ inner ++ body.request.currents = within ∧
    between ++ body.request.currents = around ∧ body.isOpen = true

variable {app : Application σ} {seen : σ → List Sight}
  {inside outside : Environ → Telemetry → List SpanContext}
  {Open : List SpanContext → List SpanContext → σ → Prop} {Closed : σ → Prop}
  (h : app.Attends seen inside outside Open Closed)

include h

theorem call_attends (environ : Environ) (t : Telemetry) :
    (layer.call app environ).Leads Telemetry.bare (fun w result =>
      let within := inside environ (layer.entry environ t) ++ (layer.begin environ t).1.currents
      let around := outside environ (layer.entry environ t) ++ (layer.begin environ t).1.currents
      w.entered = t.entered ∧
      (∀ sight ∈ seen result.2.inner, sight.Fits .call within around t.entered) ∧
      if result.1.isNone then RunsAround Open within around result.2
        else Closed result.2.inner ∧ result.2.isOpen = false) t.bare := by
  refine (layer.bare_footprint (layer.begin environ t).1.currents).call_leads
    (fun other hother => layer.begin_congr environ hother)
    (layer.entry_bare environ t ▸ h.call environ (layer.entry environ t)) ?_ ?_
  · rintro w request inner hrequest ⟨hentered, hsights, hopen⟩
    rw [layer.entry_entered] at hentered
    refine ⟨Telemetry.leaving_entered hentered, fun sight hsight => ?_,
      ⟨_, _, hopen, by rw [hrequest], by rw [hrequest], rfl⟩⟩
    exact (hsights sight hsight).extend (layer.entry_entered environ t)
  · rintro w failure request inner _ _ ⟨hentered, hsights, hclosed⟩ rfl
    rw [layer.entry_entered] at hentered
    refine ⟨Telemetry.leaving_entered hentered, fun sight hsight => ?_, hclosed, rfl⟩
    exact (hsights sight hsight).extend (layer.entry_entered environ t)

theorem respond_attends_late {body : Traced σ} (hinner : Closed body.inner)
    (start : ResponseStart) (v : Telemetry) :
    ((layer.wrap app).respond start body).Leads Telemetry.bare (fun w result =>
      w.entered = v.entered ∧ Sees seen (· = ⟨.respond, v.entered⟩) body.inner result.2.inner ∧
        Closed result.2.inner ∧ result.2.isOpen = body.isOpen) v := by
  refine ((layer.bare_footprint body.request.currents).respond_leads rfl
    (leads_bind.mp (h.late hinner (.respond start) v))).mono ?_
  rintro w ⟨answer, after⟩ ⟨⟨hentered, hsees, hafter⟩, _, hheld⟩
  exact ⟨hentered, hsees.mono fun _ hsight => hsight.2, hafter, hheld⟩

variable {within around : List SpanContext} {body : Traced σ}
  (hbody : RunsAround Open within around body) (v : Telemetry)

include hbody

theorem finish_attends :
    (layer.finish app none body).Leads Telemetry.bare (fun w after => w.entered = v.entered ∧
      Sees seen (·.IsRelease v.entered) body.inner after.inner ∧ Closed after.inner ∧
        after.isOpen = false) v := by
  obtain ⟨inner, between, hinner, rfl, rfl, hopen⟩ := hbody
  refine ((layer.bare_footprint body.request.currents).finish_leads hopen rfl
    (h.release_leads hinner v) none).mono ?_
  rintro _ after ⟨⟨w, rfl, hentered, hreleased, hlast⟩, _, hclosed⟩
  exact ⟨hentered, hreleased, hlast, hclosed⟩

theorem next_attends :
    (layer.next app body).Leads Telemetry.bare (fun w result => w.entered = v.entered ∧
      Sees seen (·.Fits .next within around v.entered) body.inner result.2.inner ∧
      if Use.next.isLast (.item result.1) then Closed result.2.inner ∧ result.2.isOpen = false
        else RunsAround Open within around result.2) v := by
  obtain ⟨inner, between, hinner, rfl, rfl, hopen⟩ := hbody
  refine (layer.bare_footprint body.request.currents).next_leads hopen rfl
    (h.next_leads hinner (v.under body.request.currents)) ?_ ?_
  · rintro w chunk request after hrequest ⟨hentered, hsees, hafter⟩
    exact ⟨Telemetry.leaving_entered hentered, hsees.mono fun _ hsight => hsight.extend rfl,
      inner, between, hafter, by rw [hrequest], by rw [hrequest], rfl⟩
  · rintro w item after hlast ⟨hentered, hsees, hafter⟩
    rw [if_pos hlast] at hafter
    refine (h.release_late_leads hafter _).mono ?_
    rintro _ last ⟨hkept, hreleased, hclosed⟩ w request _ rfl
    rw [Telemetry.leaving_entered hentered] at hkept
    refine ⟨hkept, (hsees.mono fun _ hsight => hsight.extend rfl).trans (hreleased.mono ?_), ?_⟩
    · exact fun _ hfalse => hfalse.elim
    · rw [if_pos hlast]
      exact ⟨hclosed, rfl⟩

theorem respond_attends (start : ResponseStart) :
    ((layer.wrap app).respond start body).Leads Telemetry.bare (fun w result =>
      w.entered = v.entered ∧
      Sees seen (·.Fits .respond within around v.entered) body.inner result.2.inner ∧
      RunsAround Open within around result.2) v := by
  obtain ⟨inner, between, hinner, rfl, rfl, hopen⟩ := hbody
  refine ((layer.bare_footprint body.request.currents).respond_leads rfl
    (leads_bind.mp (h.use hinner (.respond start) v))).mono ?_
  rintro w ⟨answer, after⟩ ⟨⟨hentered, hsees, hafter⟩, hrequest, hheld⟩
  exact ⟨hentered, hsees.mono fun _ hsight => hsight.extend rfl,
    inner, between, hafter, by rw [hrequest], by rw [hrequest], hheld.trans hopen⟩

end Around

/-- One more layer around an application that is run with the spans current that it should be run
with has its own span current around all of these. -/
theorem wrap_attends_of_attends {app : Application σ} {seen : σ → List Sight}
    {inside outside : Environ → Telemetry → List SpanContext}
    {Open : List SpanContext → List SpanContext → σ → Prop} {Closed : σ → Prop}
    (h : app.Attends seen inside outside Open Closed) :
    (layer.wrap app).Attends (fun body => seen body.inner)
      (fun environ t =>
        inside environ (layer.entry environ t) ++ (layer.begin environ t).1.currents)
      (fun environ t =>
        outside environ (layer.entry environ t) ++ (layer.begin environ t).1.currents)
      (RunsAround Open) (fun body => Closed body.inner ∧ body.isOpen = false) where
  call environ t := layer.call_attends h environ t
  use hbody use v := by
    cases use with
    | next => exact (layer.next_attends h hbody v).bind fun _ _ hafter => hafter
    | close =>
      refine (layer.finish_attends h hbody v).bind ?_
      rintro w after ⟨hentered, hreleased, hclosed⟩
      exact ⟨hentered, hreleased.mono fun _ hsight => hsight.fits (.inl rfl), hclosed⟩
    | drop =>
      refine (layer.finish_attends h hbody v).bind ?_
      rintro w after ⟨hentered, hreleased, hclosed⟩
      exact ⟨hentered, hreleased.mono fun _ hsight => hsight.fits (.inr (.inl rfl)), hclosed⟩
    | respond start =>
      exact (layer.respond_attends h hbody v start).bind fun _ _ hafter => hafter
  late := by
    rintro body ⟨hinner, hclosed⟩ use v
    refine layer.wrap_use_of_closed hclosed (fun _ => ⟨rfl, .refl body, hinner, hclosed⟩) ?_
    rintro start rfl
    refine (layer.respond_attends_late h hinner start v).bind ?_
    rintro w ⟨answer, after⟩ ⟨hentered, hsees, hafter, hheld⟩
    exact ⟨hentered, hsees.mono fun _ hsight => ⟨rfl, hsight⟩, hafter, hheld.trans hclosed⟩

end Layer

end RequestTracing
