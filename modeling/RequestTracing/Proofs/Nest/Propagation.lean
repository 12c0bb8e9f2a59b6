import RequestTracing.Proofs.Application.Script
import RequestTracing.Proofs.Nest.Continuity
import RequestTracing.Proofs.Nest.Tally
/-!
Traces go on through any number of layers: from the caller's span to that of the outermost layer,
and from each layer to the one within it.
-/
namespace RequestTracing

namespace Layer

theorem length_places (own : Option Propagator) (layers : List Layer) (environ : Environ)
    (t : Telemetry) : (places own layers environ t).length = layers.length := by
  induction layers generalizing t with
  | nil => rfl
  | cons layer layers ih => rw [places, List.length_cons, List.length_cons, ih]

/-- Within layers that share a tracer, the spans of a request are the trace that goes on from the
caller's span, if the headers name a valid one. When the request is over, the spans of all layers
have been exported from the inside out, and before that none; if the caller's span is not sampled,
none ever is. What is measured does not depend on the caller's span. -/
theorem wrapAll_continues_trace {σ : Type} {own : Option Propagator} {layers : List Layer}
    (hlayers : layers ≠ []) (htracer : ∀ layer ∈ layers, layer.tracer = .distributed true own)
    (hquiet : ∀ layer ∈ layers, ¬ layer.HooksUse .finish) {app : Application σ}
    (happ : app.OnlyReports) (environ : Environ) (uses : List Use) (server : Server)
    {t : Telemetry} (hpropagator : own.getD t.propagator = .traceContext)
    (hcurrent : t.entered = []) (hids : t.HandsOut layers.length) :
    let upstream := Propagator.traceContext.extract? environ
    let spans := places own layers environ t
    let service := (wrapAll layers app).serve environ uses server t
    IsTrace upstream spans ∧ spans.length = layers.length ∧
    (service.isOver uses = true → Ended layers service.state ∧
      ∃ exported, service.telemetry.exported = t.exported ++ exported ∧
        exported.map ExportedSpan.place =
          if upstream.all (·.isSampled) then spans.reverse else []) ∧
    (service.isOver uses = false → Stands layers spans service.state ∧
      service.telemetry.exported = t.exported) ∧
    ∀ other R u, app.Tallies environ other R → server.Heeds server →
      (∀ key ∈ Http.readVariables, environ.get? key = other.get? key) →
      ∃ metrics, service.telemetry.metrics = t.metrics ++ metrics ∧
        ((wrapAll layers app).serve other uses server u).telemetry.metrics =
          u.metrics ++ metrics := by
  intro upstream spans service
  have htrace : IsTrace upstream spans := by
    have hplaces := places_isTrace htracer environ hlayers hcurrent hids
    rw [hpropagator] at hplaces
    exact hplaces
  have hserved := (wrapAll_continues htracer hquiet happ).serve environ uses server t
  refine ⟨htrace, length_places own layers environ t, fun hover => ?_, fun hover => ?_, ?_⟩
  · rw [if_pos hover] at hserved
    obtain ⟨⟨exported, hexported, hspans⟩, hended⟩ := hserved
    refine ⟨hended, exported, hexported, ?_⟩
    rw [hspans, htrace.filter_isSampled]
    split <;> rfl
  · rw [if_neg (Bool.eq_false_iff.mp hover)] at hserved
    exact hserved.symm
  · intro other R u htallies hheeds hvariables
    obtain ⟨_, hall⟩ := wrapAll_tallies hvariables layers htallies
    exact hall.serve uses hheeds t u

/-- A layer that exports its spans and finds the caller's span in the headers. -/
def tracing : Layer :=
  { tracer := .distributed true (some .traceContext), meter := .observer, capture := {} }

def called (flags : String) : Environ :=
  Dictionary.empty.insert "HTTP_TRACEPARENT"
    ("00-0af7651916cd43dd8448eb211c80319c-b7ad6b7169203331-" ++ flags)

theorem wrapAll_continues_trace_talkative :
    let layers := [tracing, tracing, tracing]
    let app := Script.application "request" Script.talkative
    let server : Server := { request := "request" }
    (∀ layer ∈ layers, ¬ layer.HooksUse .finish) ∧ app.OnlyReports ∧
      ({} : Telemetry).HandsOut layers.length ∧ server.Heeds server ∧
      app.Tallies (called "00") (called "01") Eq ∧
      (Propagator.traceContext.extract? (called "00")).all (·.isSampled) = false ∧
      (Propagator.traceContext.extract? (called "01")).all (·.isSampled) = true ∧
      ((wrapAll layers app).serve (called "00") [.next, .next] server {}).telemetry.exported = [] ∧
      ((wrapAll layers app).serve (called "00") [.next, .next] server {}).telemetry.metrics =
        ((wrapAll layers app).serve (called "01") [.next, .next] server {}).telemetry.metrics := by
  intro layers app server
  have hsilent : tracing.IsSilent := isSilent_of_none rfl rfl
  have hquiet : ∀ layer ∈ layers, ¬ layer.HooksUse .finish := by
    simp [layers, hsilent .finish]
  have htracer : ∀ layer ∈ layers, layer.tracer = .distributed true (some .traceContext) := by
    simp [layers, tracing]
  have happ : app.OnlyReports := Script.application_onlyReports "request" Script.talkative
  have hids : ({} : Telemetry).HandsOut layers.length := by
    refine ⟨by decide, fun id hfirst hlast => ?_⟩
    change 0 < id at hfirst
    change id ≤ 0 + 3 at hlast
    obtain rfl | rfl | rfl : id = 1 ∨ id = 2 ∨ id = 3 := by omega
    all_goals decide
  have hheeds : server.Heeds server := ⟨rfl, fun _ _ _ => rfl⟩
  have htallies := Script.application_tallies "request" Script.talkative (called "00") (called "01")
  have hunsampled : (Propagator.traceContext.extract? (called "00")).all (·.isSampled) = false := by
    decide +kernel
  have hvariables : ∀ key ∈ Http.readVariables,
      (called "00").get? key = (called "01").get? key := by
    decide +kernel
  obtain ⟨_, _, hover, hlasting, hmetrics⟩ := wrapAll_continues_trace (by simp [layers]) htracer
    hquiet happ (called "00") [.next, .next] server rfl rfl hids
  refine ⟨hquiet, happ, hids, hheeds, htallies, hunsampled, by decide +kernel, ?_, ?_⟩
  · rcases Bool.eq_false_or_eq_true (((wrapAll layers app).serve (called "00") [.next, .next]
      server {}).isOver [.next, .next]) with hended | hlasts
    · obtain ⟨_, exported, hsame, hspans⟩ := hover hended
      rw [hunsampled] at hspans
      rw [hsame, List.map_eq_nil_iff.mp hspans]
      rfl
    · exact (hlasting hlasts).2
  · obtain ⟨metrics, hmore, hothers⟩ := hmetrics (called "01") Eq {} htallies hheeds hvariables
    exact hmore.trans hothers.symm

end Layer

end RequestTracing
