import RequestTracing.Proofs.Application.Script
import RequestTracing.Proofs.Request.Operations
/-!
Layers are transparent. To its server and to the holder of its body, an application within any
number of layers is the application itself, with a fused body.
-/
namespace RequestTracing

open Program

namespace Layer

variable {σ τ α β : Type} {R : α → β → Prop} (layer : Layer)

theorem instrument_sim {p : Program α} {q : Program β} (h : Sim R p q) (request : Request) :
    Sim (fun a b => R a.1 b) (layer.instrument p request) q := by
  induction h generalizing request with
  | done h => exact .done h
  | respond _ ih => exact .stepLeft fun t => .respond fun answer => ih answer _
  | stepLeft _ ih => exact .stepLeft fun t => ih t request
  | stepRight _ ih => exact .stepRight fun t => ih t request

theorem within_sim {p : Program α} {q : Program β} (h : Sim R p q) (request : Request) :
    Sim (fun a b => R a.1 b) (layer.within p request) q := by
  refine .stepLeft fun _ => (layer.instrument_sim h request).bindLeft ?_
  exact fun a b hab => .stepLeft fun _ => .done hab

/-- The end of a request closes and drops the body, and does nothing else that can be told. -/
theorem finish_sim {app : Application σ} {R : σ → β → Prop} {inner : σ} {q : Program β}
    (h : Sim R (app.close inner >>= app.drop) q) (status : Option SpanStatus) (request : Request) :
    Sim (fun (a : Traced σ) b => R a.inner b ∧ a.isOpen = false)
      (layer.finish app status { request, inner, isOpen := true }) q := by
  refine (layer.instrument_sim h request).bindLeft ?_
  rintro ⟨inner, request⟩ b hb
  exact .stepLeft fun _ => .done ⟨hb, rfl⟩

end Layer

/-- Whether an application behaves as another one with a fused body, where their states are in some
relation. -/
structure Application.BehavesAs {σ τ : Type} (R : σ → Fused τ → Prop) (outer : Application σ)
    (app : Application τ) : Prop where
  call : ∀ environ, Sim (fun a b => a.1 = b.1 ∧ R a.2 b.2 ∧ b.2.isOpen = b.1.isNone)
    (outer.call environ) (app.fused.call environ)
  next : ∀ {state body}, R state body →
    Sim (fun a b => a.1 = b.1 ∧ R a.2 b.2 ∧
        b.2.isOpen = (body.isOpen && !Use.next.isLast (.item b.1)))
      (outer.next state) (app.fused.next body)
  close : ∀ {state body}, R state body →
    Sim (fun a b => R a b ∧ b.isOpen = false) (outer.close state) (app.fuse body)
  drop : ∀ {state body}, R state body →
    Sim (fun a b => R a b ∧ b.isOpen = false) (outer.drop state) (app.fuse body)
  respond : ∀ start {state body}, R state body →
    Sim (fun a b => a.1 = b.1 ∧ R a.2 b.2 ∧ b.2.isOpen = body.isOpen)
      (outer.respond start state) (app.fused.respond start body)

namespace Layer

variable {σ τ : Type} (layer : Layer)

theorem wrap_behavesAs {app : Application σ} {P : σ → Prop} (h : app.IsBlind P) :
    (layer.wrap app).BehavesAs (fun state body => (state.inner = body.inner ∧ P body.inner) ∧
      state.isOpen = body.isOpen) app := by
  have hfinish (status : Option SpanStatus) (request : Request) {inner : σ} (hinner : P inner)
      (isOpen : Bool) :
      Sim (fun (a : Traced σ) (b : Fused σ) =>
          ((a.inner = b.inner ∧ P b.inner) ∧ a.isOpen = b.isOpen) ∧ b.isOpen = false)
        (layer.finish app status { request, inner, isOpen }) (app.fuse { inner, isOpen }) := by
    cases isOpen with
    | false => exact .done ⟨⟨⟨rfl, hinner⟩, rfl⟩, rfl⟩
    | true =>
      have hrelease := ((h.close hinner).bind fun _ => h.drop).sim
      refine (layer.finish_sim hrelease status request).bindRight ?_
      rintro ⟨_, dropped, _⟩ _ ⟨⟨rfl, hdropped⟩, rfl⟩
      exact .done ⟨⟨⟨rfl, hdropped⟩, rfl⟩, rfl⟩
  constructor
  case call =>
    intro environ
    refine .stepLeft fun t => ((layer.within_sim (h.call environ).sim _).bind ?_)
    rintro ⟨⟨failure, inner⟩, request⟩ _ ⟨rfl, hinner⟩
    cases failure with
    | none => exact .done ⟨rfl, ⟨⟨rfl, hinner⟩, rfl⟩, rfl⟩
    | some failure => exact .stepLeft fun _ => .done ⟨rfl, ⟨⟨rfl, hinner⟩, rfl⟩, rfl⟩
  case next =>
    rintro ⟨request, inner, isOpen⟩ ⟨_, _⟩ ⟨⟨rfl, hinner⟩, rfl⟩
    cases isOpen with
    | false => exact .done ⟨rfl, ⟨⟨rfl, hinner⟩, rfl⟩, rfl⟩
    | true =>
      refine (layer.within_sim (h.next hinner).sim request).bind ?_
      rintro ⟨⟨item, asked⟩, request⟩ _ ⟨rfl, hasked⟩
      rcases item with _ | failure | chunk
      · exact (hfinish none request hasked true).bind fun _ _ hab => .done ⟨rfl, hab⟩
      · refine .stepLeft fun t => ?_
        exact (hfinish _ request hasked true).bind fun _ _ hab => .done ⟨rfl, hab⟩
      · exact .done ⟨rfl, ⟨⟨rfl, hasked⟩, rfl⟩, rfl⟩
  case close =>
    rintro ⟨request, inner, isOpen⟩ ⟨_, _⟩ ⟨⟨rfl, hinner⟩, rfl⟩
    exact hfinish none request hinner isOpen
  case drop =>
    rintro ⟨request, inner, isOpen⟩ ⟨_, _⟩ ⟨⟨rfl, hinner⟩, rfl⟩
    exact hfinish none request hinner isOpen
  case respond =>
    rintro start ⟨request, inner, isOpen⟩ ⟨_, _⟩ ⟨⟨rfl, hinner⟩, rfl⟩
    refine (layer.instrument_sim (h.respond start hinner).sim request).bind ?_
    rintro ⟨⟨answer, after⟩, request⟩ _ ⟨rfl, hafter⟩
    exact .done ⟨rfl, ⟨⟨rfl, hafter⟩, rfl⟩, rfl⟩

/-- A layer around an application that behaves as with a fused body changes nothing. -/
theorem wrap_behavesAs_of_behavesAs {inner : Application σ} {app : Application τ}
    {R : σ → Fused τ → Prop} (h : inner.BehavesAs R app) :
    (layer.wrap inner).BehavesAs (fun state body => R state.inner body ∧
      state.isOpen = body.isOpen) app := by
  have hfinish (status : Option SpanStatus) (request : Request) {state : σ} {body : Fused τ}
      (hstate : R state body) :
      Sim (fun (a : Traced σ) b => (R a.inner b ∧ a.isOpen = b.isOpen) ∧ b.isOpen = false)
        (layer.finish inner status { request, inner := state, isOpen := true })
        (app.fuse body) := by
    have hrelease : Sim (fun a b => R a b ∧ b.isOpen = false)
        (inner.close state >>= inner.drop) (app.fuse body) := by
      refine (h.close hstate).bindLeft ?_
      rintro closed ⟨last, _⟩ ⟨hclosed, rfl⟩
      -- Nothing is left to be let go of.
      exact h.drop hclosed
    refine (layer.finish_sim hrelease status request).mono ?_
    rintro a b ⟨⟨hinner, hb⟩, ha⟩
    exact ⟨⟨hinner, ha.trans hb.symm⟩, hb⟩
  constructor
  case call =>
    intro environ
    refine .stepLeft fun t => ((layer.within_sim (h.call environ) _).bindLeft ?_)
    rintro ⟨⟨failure, state⟩, request⟩ ⟨_, body⟩ ⟨rfl, hstate, hopen⟩
    cases failure with
    | none => exact .done ⟨rfl, ⟨hstate, hopen.symm⟩, hopen⟩
    | some failure => exact .stepLeft fun _ => .done ⟨rfl, ⟨hstate, hopen.symm⟩, hopen⟩
  case next =>
    rintro ⟨request, state, isOpen⟩ ⟨bare, _⟩ ⟨hstate, rfl⟩
    cases isOpen with
    | false => exact .done ⟨rfl, ⟨hstate, rfl⟩, rfl⟩
    | true =>
      refine (layer.within_sim (h.next hstate) request).bindLeft ?_
      rintro ⟨⟨item, asked⟩, request⟩ ⟨_, ⟨last, held⟩⟩ ⟨rfl, hasked, hopen⟩
      rcases item with _ | failure | chunk
      · obtain rfl : held = false := hopen
        exact (hfinish none request hasked).bind (g := fun body => .done (none, body))
          fun _ _ hab => .done ⟨rfl, hab⟩
      · obtain rfl : held = false := hopen
        refine .stepLeft fun t => ?_
        exact (hfinish _ request hasked).bind
          (g := fun body => .done (some (Except.error failure), body))
          fun _ _ hab => .done ⟨rfl, hab⟩
      · obtain rfl : held = true := hopen
        exact .done ⟨rfl, ⟨hasked, rfl⟩, rfl⟩
  case close =>
    rintro ⟨request, state, isOpen⟩ ⟨bare, _⟩ ⟨hstate, rfl⟩
    cases isOpen with
    | false => exact .done ⟨⟨hstate, rfl⟩, rfl⟩
    | true => exact hfinish none request hstate
  case drop =>
    rintro ⟨request, state, isOpen⟩ ⟨bare, _⟩ ⟨hstate, rfl⟩
    cases isOpen with
    | false => exact .done ⟨⟨hstate, rfl⟩, rfl⟩
    | true => exact hfinish none request hstate
  case respond =>
    rintro start ⟨request, state, isOpen⟩ ⟨bare, _⟩ ⟨hstate, rfl⟩
    refine (layer.instrument_sim (h.respond start hstate) request).bindLeft ?_
    rintro ⟨⟨answer, after⟩, request⟩ ⟨_, last⟩ ⟨rfl, hafter, hopen⟩
    exact .done ⟨rfl, ⟨hafter, hopen.symm⟩, hopen⟩

def innermost {σ : Type} : (layers : List Layer) → Nested σ layers → σ
  | [], state => state
  | _ :: layers, state => innermost layers state.inner

theorem wrapAll_behavesAs {σ : Type} (layer : Layer) (layers : List Layer) {app : Application σ}
    {P : σ → Prop} (h : app.IsBlind P) :
    ∃ R : Nested σ (layer :: layers) → Fused σ → Prop,
      (wrapAll (layer :: layers) app).BehavesAs R app ∧
      ∀ state body, R state body → innermost (layer :: layers) state = body.inner := by
  induction layers generalizing layer with
  | nil => exact ⟨_, layer.wrap_behavesAs h, fun state body hstate => hstate.1.1⟩
  | cons next layers ih =>
    obtain ⟨R, hbehaves, hinner⟩ := ih next
    exact ⟨_, layer.wrap_behavesAs_of_behavesAs hbehaves, fun state body hstate =>
      hinner state.inner body hstate.1⟩

end Layer

namespace Application.BehavesAs

variable {σ τ : Type} {R : σ → Fused τ → Prop} {outer : Application σ} {app : Application τ}
  (h : outer.BehavesAs R app)

include h

theorem use_sim (use : Use) {state : σ} {body : Fused τ} (hstate : R state body) :
    Sim (fun a b => a.1 = b.1 ∧ R a.2 b.2) (outer.use use state) (app.fused.use use body) := by
  cases use with
  | next =>
    refine (h.next hstate).bind ?_
    rintro ⟨item, after⟩ ⟨_, last⟩ ⟨rfl, hafter, _⟩
    exact .done ⟨rfl, hafter⟩
  | close => exact (h.close hstate).bind fun _ _ hab => .done ⟨rfl, hab.1⟩
  | drop => exact (h.drop hstate).bind fun _ _ hab => .done ⟨rfl, hab.1⟩
  | respond start =>
    refine (h.respond start hstate).bind ?_
    rintro ⟨answer, after⟩ ⟨_, last⟩ ⟨rfl, hafter, _⟩
    exact .done ⟨rfl, hafter⟩

theorem useAll_sim (uses : List Use) {state : σ} {body : Fused τ} (hstate : R state body) :
    Sim (fun a b => a.1 = b.1 ∧ R a.2 b.2) (outer.useAll uses state)
      (app.fused.useAll uses body) := by
  induction uses generalizing state body with
  | nil => exact .done ⟨rfl, hstate⟩
  | cons use uses ih =>
    refine (h.use_sim use hstate).bind ?_
    rintro ⟨outcome, middle⟩ ⟨_, other⟩ ⟨rfl, hmiddle⟩
    refine (ih hmiddle).bind ?_
    rintro ⟨outcomes, after⟩ ⟨_, last⟩ ⟨rfl, hafter⟩
    exact .done ⟨rfl, hafter⟩

/-- What comes of a request is the same, whatever the state is that all requests share. -/
theorem serve (environ : Environ) (uses : List Use) (server : Server) (t other : Telemetry) :
    let service := outer.serve environ uses server t
    let fused := app.fused.serve environ uses server other
    service.failure = fused.failure ∧ service.outcomes = fused.outcomes ∧
      service.server = fused.server ∧ R service.state fused.state := by
  rcases hcall : (outer.call environ).run server t with ⟨⟨failure, state⟩, middle, t₁⟩
  rcases hfused : (app.fused.call environ).run server other with ⟨⟨_, body⟩, _, other₁⟩
  obtain ⟨⟨hfailure, hstate, _⟩, hserver⟩ := (h.call environ).run server t other
  rw [hcall, hfused] at hfailure hstate hserver
  cases hfailure
  cases hserver
  obtain ⟨⟨houtcomes, hlast⟩, hlastServer⟩ := (h.useAll_sim uses hstate).run middle t₁ other₁
  simp only [Application.serve, hcall, hfused]
  exact ⟨trivial, houtcomes, hlastServer, hlast⟩

end Application.BehavesAs

namespace Layer

/-- Layers are transparent. With any number of layers around it, an application that depends on
nothing but its environment and its server fails as it does without them, starts the same responses
and gets the same answers. Its body is used as the body of the outermost layer is, up to the last
use of that one; then it is closed and dropped. -/
theorem serve_transparent {σ : Type} (layer : Layer) (layers : List Layer) {app : Application σ}
    {P : σ → Prop} (h : app.IsBlind P) (environ : Environ) (uses : List Use) (server : Server)
    (t other : Telemetry) :
    let service := (wrapAll (layer :: layers) app).serve environ uses server t
    ∃ passed, service.outcomes.length = uses.length ∧
      Passed service.failure (uses.zip service.outcomes) passed ∧
      let bare := app.serve environ (passed.map (·.1)) server other
      bare.failure = service.failure ∧ bare.outcomes = passed.map (·.2) ∧
        bare.server = service.server ∧ bare.state = innermost (layer :: layers) service.state := by
  intro service
  obtain ⟨R, hbehaves, hinner⟩ := wrapAll_behavesAs layer layers h
  obtain ⟨hfailure, houtcomes, hserver, hstate⟩ := hbehaves.serve environ uses server t other
  obtain ⟨passed, hlength, hpassed, hserve⟩ := app.serve_fused environ uses server other
  rw [← hfailure, ← hserver, ← hinner _ _ hstate] at hserve
  rw [← houtcomes] at hlength
  rw [← hfailure, ← houtcomes] at hpassed
  refine ⟨passed, hlength, hpassed, ?_⟩
  rw [hserve]
  exact ⟨rfl, rfl, rfl, rfl⟩

theorem serve_transparent_talkative :
    let app := Script.application "request" Script.talkative
    let uses : List Use := [.next, .next, .next, .close, .respond { status := "404 Gone" }]
    let server := Server.ofAnswers "request" [none, none, some "refused", some "refused"]
    let service := (wrapAll [observing, observing, observing] app).serve .empty uses server {}
    app.IsBlind (fun state => state.body.IsPlain) ∧
    ∃ passed, Passed service.failure (uses.zip service.outcomes) passed ∧
      (app.serve .empty (passed.map (·.1)) server {}).failure = service.failure ∧
      (app.serve .empty (passed.map (·.1)) server {}).server = service.server := by
  intro app uses server service
  have hblind := Script.application_isBlind "request" Script.talkative_isPlain
  obtain ⟨passed, _, hpassed, hfailure, _, hserver, _⟩ :=
    serve_transparent observing [observing, observing] hblind .empty uses server {} {}
  exact ⟨hblind, passed, hpassed, hfailure, hserver⟩

end Layer

end RequestTracing
