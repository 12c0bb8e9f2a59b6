import RequestTracing.Proofs.Span.Renumber
/-!
Programs that echo one another. They come in a family with one program for each amount by which the
numbers of spans are moved up, and run alike up to these numbers, wherever they run within some
surroundings.
-/
namespace RequestTracing

namespace Program

variable {α β : Type}

/-- Whether each program of a family, when it is run within some surroundings, only adds events, and
whether these and the results are the same throughout the family, up to the numbers of spans. The
results, as a family, are of some kind. -/
def Echo (around : Surroundings) (kind : (Nat → α) → Prop) (programs : Nat → Program α) : Prop :=
  ∀ server, ∃ (results : Nat → α) (last : Server) (events : List Event), kind results ∧
    ∀ shift t, t.surroundings = around → (programs shift).run server t =
      (results shift, last, t.emitAll (events.map (Event.renumber shift)))

namespace Echo

variable {around : Surroundings} {kind : (Nat → α) → Prop} {other : (Nat → β) → Prop}

theorem done {results : Nat → α} (h : kind results) :
    Echo around kind fun shift => .done (results shift) :=
  fun server => ⟨results, server, [], h, fun _ _ _ => rfl⟩

theorem bind {programs : Nat → Program α} {nexts : Nat → α → Program β}
    (h : Echo around kind programs)
    (hnext : ∀ results, kind results → Echo around other fun shift => nexts shift (results shift)) :
    Echo around other fun shift => (programs shift).bind (nexts shift) := by
  intro server
  obtain ⟨results, middle, events, hkind, hfirst⟩ := h server
  obtain ⟨lasts, last, more, hother, hsecond⟩ := hnext results hkind middle
  refine ⟨lasts, last, events ++ more, hother, fun shift t ht => ?_⟩
  have hbetween : (t.emitAll (events.map (Event.renumber shift))).surroundings = around := by
    simpa using ht
  simp only [run_bind, hfirst shift t ht, hsecond shift _ hbetween, Telemetry.emitAll_emitAll,
    List.map_append]

theorem act {actions : Nat → Telemetry → α × Telemetry} {results : Nat → α} {events : List Event}
    (hkind : kind results)
    (h : ∀ shift t, t.surroundings = around → actions shift t =
      (results shift, t.emitAll (events.map (Event.renumber shift)))) :
    Echo around kind fun shift => Program.act (actions shift) := by
  refine fun server => ⟨results, server, events, hkind, fun shift t ht => ?_⟩
  rw [run_act, h shift t ht]

theorem modify {changes : Nat → Telemetry → Telemetry} (events : List Event)
    (h : ∀ shift t, t.surroundings = around →
      changes shift t = t.emitAll (events.map (Event.renumber shift))) :
    Echo around (fun _ => True) fun shift => Program.modify (changes shift) := by
  refine fun server => ⟨fun _ => (), server, events, trivial, fun shift t ht => ?_⟩
  rw [run_modify, h shift t ht]

theorem read {views : Nat → Telemetry → α} {results : Nat → α} (hkind : kind results)
    (h : ∀ shift t, t.surroundings = around → views shift t = results shift) :
    Echo around kind fun shift => Program.read (views shift) := by
  refine fun server => ⟨results, server, [], hkind, fun shift t ht => ?_⟩
  rw [run_read, h shift t ht]
  rfl

end Echo

end Program

end RequestTracing
