import RequestTracing.Proofs.Event.Kinds
import RequestTracing.Layer.Request
/-!
What becomes of a span and of the state around it through updates of some kind. Updates that do not
end the span leave it to be noticed that it ends.
-/
namespace RequestTracing

namespace LoggedSpan

@[simp] theorem ended_setAttribute (span : LoggedSpan) (name : String) (value : AttributeValue) :
    (span.setAttribute name value).ended = span.ended := by
  unfold setAttribute
  split <;> rfl

@[simp] theorem ended_setStatus (span : LoggedSpan) (status : SpanStatus) :
    (span.setStatus status).ended = span.ended := by
  unfold setStatus
  split <;> rfl

end LoggedSpan

namespace DistributedSpan

@[simp] theorem isSome_record_setAttribute (span : DistributedSpan) (name : String)
    (value : AttributeValue) :
    (span.setAttribute name value).record.isSome = span.record.isSome := by
  simp [setAttribute]

@[simp] theorem isSome_record_setStatus (span : DistributedSpan) (status : SpanStatus) :
    (span.setStatus status).record.isSome = span.record.isSome := by
  simp [setStatus]

end DistributedSpan

namespace Span

/-- Whether the end of a span, when it comes, can be noticed. -/
def showsEnd : Span → Bool
  | .observed _ _ => true
  | .logged span => !span.ended
  | .distributed span => span.record.isSome

/-- What can become of a span and the state around it through updates of some kind, with hooks in
between. -/
inductive Reaches (allowed : SpanAction → Prop) (start : Span × Telemetry) :
    Span × Telemetry → Prop
  | refl : Reaches allowed start start
  | act {span : Span} {t : Telemetry} (action : SpanAction) (h : allowed action)
      (before : Reaches allowed start (span, t)) : Reaches allowed start (span.act action t)
  | hook {span : Span} {t : Telemetry} (event : Event)
      (h : event = .requestHook ∨ event = .responseHook)
      (before : Reaches allowed start (span, t)) : Reaches allowed start (span, t.emit event)

namespace Reaches

variable {allowed : SpanAction → Prop} {start middle last : Span × Telemetry}

theorem trans (h : Reaches allowed start middle) (rest : Reaches allowed middle last) :
    Reaches allowed start last := by
  induction rest with
  | refl => exact h
  | act action allows _ ih => exact .act action allows ih
  | hook event isHook _ ih => exact .hook event isHook ih

end Reaches

theorem setAttributes_eq_actAll (span : Span) (attributes : Attributes) (t : Telemetry) :
    span.setAttributes attributes t =
      span.actAll (attributes.entries.map fun entry => .setAttribute entry.1 entry.2) t := by
  simp [setAttributes, actAll, act, List.foldl_map]

end Span

namespace SpanRoutine

/-- Whether a routine may come to some update, whatever it sees. -/
def Uses : SpanRoutine → SpanAction → Prop
  | .done, _ => False
  | .act first rest, action => action = first ∨ rest.Uses action
  | .look rest, action => ∃ recording kind, (rest recording kind).Uses action

theorem run_of_not_uses {routine : SpanRoutine} (h : ∀ action, ¬ routine.Uses action) (span : Span)
    (t : Telemetry) : routine.run span t = (span, t) := by
  induction routine with
  | done => rfl
  | act action rest _ => exact absurd (.inl rfl) (h action)
  | look rest ih => exact ih _ _ fun action haction => h action ⟨_, _, haction⟩

end SpanRoutine

namespace Span

/-- Whether a kind of updates of spans has in it all that are allowed, and all that are made of its
updates one after the other, or by a choice among them that depends on what the span shows. -/
structure IsClosed (allowed : SpanAction → Prop)
    (kind : (Span → Telemetry → Span × Telemetry) → Prop) : Prop where
  keep : kind Prod.mk
  act : ∀ action, allowed action → kind fun span => span.act action
  comp : ∀ {first second : Span → Telemetry → Span × Telemetry}, kind first → kind second →
    kind fun span t => second (first span t).1 (first span t).2
  look : ∀ {updates : Bool → SpanKind → Span → Telemetry → Span × Telemetry},
    (∀ recording spanKind, kind (updates recording spanKind)) →
    kind fun span t => updates (span.isRecording t) span.kind span t

namespace IsClosed

variable {allowed : SpanAction → Prop} {kind : (Span → Telemetry → Span × Telemetry) → Prop}
  (h : IsClosed allowed kind)

include h

theorem ite {update : Span → Telemetry → Span × Telemetry} (hupdate : kind update)
    (test : Bool → SpanKind → Bool) :
    kind fun span t =>
      if test (span.isRecording t) span.kind then update span t else (span, t) := by
  have hchoice (recording : Bool) (spanKind : SpanKind) :
      kind fun span t => if test recording spanKind then update span t else (span, t) := by
    cases test recording spanKind with
    | true => exact hupdate
    | false => exact h.keep
  exact h.look hchoice

theorem run {routine : SpanRoutine} (hroutine : ∀ action, routine.Uses action → allowed action) :
    kind routine.run := by
  induction routine with
  | done => exact h.keep
  | act action rest ih =>
    have hrest : kind rest.run := ih fun other hother => hroutine other (.inr hother)
    exact h.comp (h.act action (hroutine action (.inl rfl))) hrest
  | look rest ih =>
    have hrest (recording : Bool) (spanKind : SpanKind) : kind (rest recording spanKind).run :=
      ih recording spanKind fun action haction => hroutine action ⟨recording, spanKind, haction⟩
    exact h.look hrest

theorem actAll {actions : List SpanAction} (hactions : ∀ action ∈ actions, allowed action) :
    kind fun span => span.actAll actions := by
  induction actions with
  | nil => exact h.keep
  | cons action actions ih =>
    obtain ⟨haction, hrest⟩ := List.forall_mem_cons.mp hactions
    exact h.comp (h.act action haction) (ih hrest)

theorem setAttributes {attributes : Attributes}
    (hentries : ∀ entry ∈ attributes.entries, allowed (.setAttribute entry.1 entry.2)) :
    kind fun span => span.setAttributes attributes := by
  have hsame : (fun span : Span => span.setAttributes attributes) = fun span => span.actAll
      (attributes.entries.map fun entry => .setAttribute entry.1 entry.2) := by
    funext span t
    exact span.setAttributes_eq_actAll attributes t
  rw [hsame]
  apply h.actAll
  intro action haction
  obtain ⟨entry, hentry, rfl⟩ := List.mem_map.mp haction
  exact hentries entry hentry

/-- A status line sets its code and the outcome, and does nothing else to a span. -/
theorem applyStatus (line : String)
    (hcode : ∀ code, allowed (.setAttribute Http.statusCodeAttribute (.int code)))
    (hstatus : ∀ status, allowed (.setStatus status)) :
    kind fun span => span.applyStatus line := by
  refine h.ite ?_ fun recording _ => recording
  cases Http.statusCode? line with
  | none => exact h.act (.setStatus (Http.unreadableStatus line)) (hstatus _)
  | some code =>
    exact h.comp (h.act (.setAttribute Http.statusCodeAttribute (.int code)) (hcode code))
      (h.act (.setStatus (Http.statusOutcome code true)) (hstatus _))

theorem setHeaders {headers : Attributes}
    (hentries : ∀ entry ∈ headers.entries, allowed (.setAttribute entry.1 entry.2)) :
    kind (Layer.setHeaders headers) :=
  h.ite (h.setAttributes hentries) fun recording spanKind => recording && spanKind = .server

end IsClosed

/-- What holds between a span and the state around it before and after each allowed update holds for
a kind of updates with all of these, if it holds for any steps one after the other. -/
theorem isClosed_of_steps {allowed : SpanAction → Prop}
    {R : Span × Telemetry → Span × Telemetry → Prop} (refl : ∀ start, R start start)
    (trans : ∀ {start middle last}, R start middle → R middle last → R start last)
    (act : ∀ action, allowed action → ∀ span t, R (span, t) (span.act action t)) :
    IsClosed allowed fun update => ∀ span t, R (span, t) (update span t) where
  keep _ _ := refl _
  act := act
  comp hfirst hsecond span t := trans (hfirst span t) (hsecond _ _)
  look hupdates span t := hupdates _ _ span t

theorem isClosed_reaches (allowed : SpanAction → Prop) :
    IsClosed allowed fun update => ∀ span t, Reaches allowed (span, t) (update span t) :=
  isClosed_of_steps (fun _ => .refl) (fun h rest => h.trans rest)
    fun action haction _ _ => .act action haction .refl

/-- At the end of a span there is one event or one exported span, and neither if the end cannot be
noticed. -/
theorem finish_events (span : Span) (t : Telemetry) :
    ∃ new exports, (span.finish t).2.events = t.events ++ new ∧
      (span.finish t).2.exported = t.exported ++ exports ∧
      (∀ event ∈ new, event.isSpanEnd = true) ∧
      new.length + exports.length = if span.showsEnd then 1 else 0 := by
  cases span with
  | observed number kind =>
    exact ⟨[.endSpan number], [], rfl, t.exported.append_nil.symm, by simp [Event.isSpanEnd], rfl⟩
  | logged span =>
    cases hended : span.ended with
    | true =>
      have hfinish : span.finish t = (span, t) := by simp [LoggedSpan.finish, hended]
      exact ⟨[], [], by simp [finish, hfinish], by simp [finish, hfinish], by simp,
        by simp [showsEnd, hended]⟩
    | false =>
      have hfinish : (span.finish t).2 = t.emit (.log span.endRecord) := by
        simp [LoggedSpan.finish, hended]
      exact ⟨[.log span.endRecord], [], by simp [finish, hfinish],
        by simp [finish, hfinish, Telemetry.emit], by simp [Event.isSpanEnd],
        by simp [showsEnd, hended]⟩
  | distributed span =>
    cases hrecord : span.record with
    | none => exact ⟨[], [], by simp [finish, DistributedSpan.finish, hrecord],
        by simp [finish, DistributedSpan.finish, hrecord], by simp, by simp [showsEnd, hrecord]⟩
    | some record => exact ⟨[], [_], by simp [finish, DistributedSpan.finish, hrecord],
        by simp only [finish, DistributedSpan.finish, hrecord]; rfl, by simp,
        by simp [showsEnd, hrecord]⟩

/-- An update tells of nothing but the span, and of its end only if it ends the span. -/
theorem act_events (span : Span) (action : SpanAction) (t : Telemetry) :
    ∃ new, (span.act action t).2.events = t.events ++ new ∧
      ∀ event ∈ new, event.isSpanUse = true ∧ (event.isSpanEnd = true → action = .finish) := by
  cases action with
  | setAttribute name value =>
    cases span with
    | observed number kind =>
      exact ⟨[.setAttribute number name value], rfl, by simp [Event.isSpanUse, Event.isSpanEnd]⟩
    | logged span => exact ⟨[], by simp [act, setAttribute], by simp⟩
    | distributed span => exact ⟨[], by simp [act, setAttribute], by simp⟩
  | setStatus status =>
    cases span with
    | observed number kind =>
      exact ⟨[.setStatus number status], rfl, by simp [Event.isSpanUse, Event.isSpanEnd]⟩
    | logged span => exact ⟨[], by simp [act, setStatus], by simp⟩
    | distributed span => exact ⟨[], by simp [act, setStatus], by simp⟩
  | finish =>
    obtain ⟨new, _, hnew, _, hends, _⟩ := finish_events span t
    exact ⟨new, hnew, fun event he => ⟨Event.isSpanUse_of_isSpanEnd (hends event he), by simp⟩⟩
  | setRecording on => exact ⟨[], by simp [act], by simp⟩

theorem act_exported (span : Span) {action : SpanAction} (h : action ≠ .finish) (t : Telemetry) :
    (span.act action t).2.exported = t.exported := by
  cases action <;> cases span <;> first | rfl | exact absurd rfl h

theorem act_showsEnd (span : Span) {action : SpanAction} (h : action ≠ .finish) (t : Telemetry) :
    (span.act action t).1.showsEnd = span.showsEnd := by
  cases action with
  | finish => exact absurd rfl h
  | setAttribute name value => cases span <;> simp [act, setAttribute, showsEnd]
  | setStatus status => cases span <;> simp [act, setStatus, showsEnd]
  | setRecording on => rfl

namespace Reaches

variable {allowed : SpanAction → Prop} {start last : Span × Telemetry}

theorem events (h : Reaches allowed start last) :
    ∃ new, last.2.events = start.2.events ++ new ∧
      ∀ event ∈ new, event.isSpanUse = true ∧ (event.isSpanEnd = true → allowed .finish) := by
  induction h with
  | refl => exact ⟨[], by simp, by simp⟩
  | @act span t action allows _ ih =>
    obtain ⟨new, hnew, huse⟩ := ih
    obtain ⟨more, hmore, hact⟩ := act_events span action t
    refine ⟨new ++ more, ?_, fun event he => ?_⟩
    · rw [hmore, ← List.append_assoc]
      exact congrArg (· ++ more) hnew
    rcases List.mem_append.mp he with he | he
    · exact huse event he
    · exact ⟨(hact event he).1, fun hend => (hact event he).2 hend ▸ allows⟩
  | @hook span t event isHook _ ih =>
    obtain ⟨new, hnew, huse⟩ := ih
    refine ⟨new ++ [event], by simp_all, fun other he => ?_⟩
    rcases List.mem_append.mp he with he | he
    · exact huse other he
    · rw [List.mem_singleton.mp he]
      rcases isHook with rfl | rfl <;> simp [Event.isSpanUse, Event.isSpanEnd]

theorem exported (h : Reaches allowed start last) (hspare : ¬ allowed .finish) :
    last.2.exported = start.2.exported := by
  induction h with
  | refl => rfl
  | @act span t action allows _ ih =>
    rw [act_exported span (fun hfinish => hspare (hfinish ▸ allows)) t, ih]
  | hook event isHook _ ih => exact ih

theorem showsEnd (h : Reaches allowed start last) (hspare : ¬ allowed .finish) :
    last.1.showsEnd = start.1.showsEnd := by
  induction h with
  | refl => rfl
  | @act span t action allows _ ih =>
    rw [act_showsEnd span (fun hfinish => hspare (hfinish ▸ allows)) t, ih]
  | hook event isHook _ ih => exact ih

end Reaches

end Span

end RequestTracing
