import RequestTracing.Proofs.Request.Course
/-!
Every run of a traced application that only reports is the course of a request through the stages of
a story of the application.
-/
namespace RequestTracing

open Application

namespace Layer

variable {σ α : Type} (layer : Layer)

theorem run_instrument {p : Program α} (hp : p.OnlyReports) (course : Course) :
    ∃ moves a, p.Makes moves a ∧
      (layer.instrument p course.request).run course.server course.telemetry =
        (layer.moveAll course moves).result a := by
  induction p generalizing course with
  | done a => exact ⟨[], a, .done a, rfl⟩
  | respond start next ih =>
    obtain ⟨moves, a, hmakes, hrun⟩ :=
      ih (course.server.receive start).1 (hp _) (layer.move course (.respond start))
    exact ⟨.respond start :: moves, a, .respond hmakes, hrun⟩
  | step change next ih =>
    obtain ⟨⟨events, hown, hchange⟩, hnext⟩ := hp course.telemetry
    obtain ⟨moves, a, hmakes, hrun⟩ :=
      ih course.telemetry hnext (layer.move course (.report events))
    refine ⟨.report events :: moves, a, .step hchange hmakes, ?_⟩
    simp only [instrument, Program.run_step, hchange]
    exact hrun

theorem run_within {p : Program α} (hp : p.OnlyReports) (course : Course) :
    ∃ moves a, p.Makes moves a ∧
      (layer.within p course.request).run course.server course.telemetry =
        (layer.pass course (.work moves)).result a := by
  obtain ⟨moves, a, hmakes, hrun⟩ := layer.run_instrument hp (enter course)
  refine ⟨moves, a, hmakes, ?_⟩
  simp only [Course.result, enter] at hrun
  simp [within, hrun, pass, enter, Course.result]

theorem run_finish {app : Application σ} (happ : app.OnlyReports) (cause : Option Failure)
    (course : Course) (inner : σ) :
    ∃ closing closed dropping dropped, (app.close inner).Makes closing closed ∧
      (app.drop closed).Makes dropping dropped ∧
      (layer.finish app
        (cause.bind fun failure => failedStatus failure course.request course.telemetry)
        { request := course.request, inner, isOpen := true }).run course.server course.telemetry =
        let last := layer.pass course (.finish closing dropping cause)
        ({ request := last.request, inner := dropped, isOpen := false }, last.server,
          last.telemetry) := by
  have hp : ((app.close inner).bind app.drop).OnlyReports :=
    (happ.close inner).bind fun closed => happ.drop closed
  obtain ⟨moves, dropped, hmakes, hrun⟩ := layer.run_instrument hp course
  obtain ⟨closing, dropping, closed, rfl, hclose, hdrop⟩ := hmakes.of_bind
  refine ⟨closing, closed, dropping, dropped, hclose, hdrop, ?_⟩
  simp only [Course.result] at hrun
  simp [finish, hrun, pass, conclude]

variable {app : Application σ} (happ : app.OnlyReports)

include happ

/-- Asking a body that is held for a chunk is a stage, and one more if it was the last time. -/
theorem run_next (body : Traced σ) (server : Server) (t : Telemetry) :
    ∃ item, ∃ after : Traced σ, ∃ stages,
      app.Story body.isOpen body.inner stages after.isOpen after.inner ∧
      after.isOpen = (body.isOpen && !Use.next.isLast (.item item)) ∧
      stages.filterMap Stage.failure? = (Outcome.item item).failure?.toList ∧
      (layer.next app body).run server t =
        let last := layer.passAll ⟨body.request, server, t⟩ stages
        ((item, { after with request := last.request }), last.server, last.telemetry) := by
  obtain ⟨request, inner, isOpen⟩ := body
  cases isOpen with
  | false => exact ⟨none, ⟨request, inner, false⟩, [], .nil _ _, by simp, rfl, by simp [next]⟩
  | true =>
    obtain ⟨moves, ⟨item, asked⟩, hasked, hrun⟩ :=
      layer.run_within (happ.next inner) ⟨request, server, t⟩
    simp only [Course.result] at hrun
    -- The body is closed and dropped at its end just as after a failure.
    have hlast (cause : Option Failure) (hitem : item = cause.map .error) :
        ∃ after : Traced σ, ∃ stages, app.Story true inner stages after.isOpen after.inner ∧
          after.isOpen = false ∧
          stages.filterMap Stage.failure? = (Outcome.item item).failure?.toList ∧
          (layer.next app ⟨request, inner, true⟩).run server t =
            let last := layer.passAll ⟨request, server, t⟩ stages
            ((item, { after with request := last.request }), last.server, last.telemetry) := by
      obtain ⟨closing, closed, dropping, dropped, hclose, hdrop, hfinish⟩ :=
        layer.run_finish happ cause (layer.pass ⟨request, server, t⟩ (.work moves)) asked
      refine ⟨⟨request, dropped, false⟩, _,
        .exhaust (hitem ▸ hasked) hclose hdrop (.nil _ _), rfl, ?_, ?_⟩
      · rw [hitem]
        cases cause <;> rfl
      · cases cause <;> simp_all [next]
    rcases item with _ | failure | chunk
    · obtain ⟨after, stages, hstory, hopen, hfailures, hrun⟩ := hlast none rfl
      exact ⟨none, after, stages, hstory, by simpa [Use.isLast] using hopen, hfailures, hrun⟩
    · obtain ⟨after, stages, hstory, hopen, hfailures, hrun⟩ := hlast (some failure) rfl
      exact ⟨_, after, stages, hstory, by simpa [Use.isLast] using hopen, hfailures, hrun⟩
    · refine ⟨some (.ok chunk), ⟨request, asked, true⟩, [.work moves],
        .chunk hasked (.nil _ _), rfl, rfl, ?_⟩
      simp [next, hrun]

theorem run_release (body : Traced σ) (server : Server) (t : Telemetry) :
    ∃ inner stages, app.Story body.isOpen body.inner stages false inner ∧
      stages.filterMap Stage.failure? = [] ∧
      (layer.finish app none body).run server t =
        let last := layer.passAll ⟨body.request, server, t⟩ stages
        ({ request := last.request, inner, isOpen := false }, last.server, last.telemetry) := by
  obtain ⟨request, inner, isOpen⟩ := body
  cases isOpen with
  | false => exact ⟨inner, [], .nil _ _, rfl, by simp [finish]⟩
  | true =>
    obtain ⟨closing, closed, dropping, dropped, hclose, hdrop, hfinish⟩ :=
      layer.run_finish happ none ⟨request, server, t⟩ inner
    exact ⟨dropped, _, .release hclose hdrop (.nil _ _), rfl, hfinish⟩

theorem run_aside (start : ResponseStart) (body : Traced σ) (server : Server) (t : Telemetry) :
    ∃ answer inner stages, app.Story body.isOpen body.inner stages body.isOpen inner ∧
      stages.filterMap Stage.failure? = [] ∧
      ((layer.wrap app).respond start body).run server t =
        let last := layer.passAll ⟨body.request, server, t⟩ stages
        ((answer, { body with request := last.request, inner }), last.server, last.telemetry) := by
  obtain ⟨moves, ⟨answer, inner⟩, hmakes, hrun⟩ :=
    layer.run_instrument (happ.respond start body.inner) ⟨body.request, server, t⟩
  refine ⟨answer, inner, [.aside moves], .aside hmakes (.nil _ _), rfl, ?_⟩
  simp only [Course.result] at hrun
  simp [wrap, hrun, pass]

theorem run_use (use : Use) (body : Traced σ) (server : Server) (t : Telemetry) :
    ∃ outcome, ∃ after : Traced σ, ∃ stages,
      app.Story body.isOpen body.inner stages after.isOpen after.inner ∧
      after.isOpen = (body.isOpen && !use.isLast outcome) ∧
      stages.filterMap Stage.failure? = outcome.failure?.toList ∧
      ((layer.wrap app).use use body).run server t =
        let last := layer.passAll ⟨body.request, server, t⟩ stages
        ((outcome, { after with request := last.request }), last.server, last.telemetry) := by
  cases use with
  | next =>
    obtain ⟨item, after, stages, hstory, hopen, hfailures, hrun⟩ :=
      layer.run_next happ body server t
    exact ⟨.item item, after, stages, hstory, hopen, hfailures,
      by simp [Application.use, wrap, hrun]⟩
  | close =>
    obtain ⟨inner, stages, hstory, hfailures, hrun⟩ := layer.run_release happ body server t
    refine ⟨.nothing, ⟨body.request, inner, false⟩, stages, hstory, by simp [Use.isLast],
      hfailures, ?_⟩
    simp [Application.use, wrap, hrun]
  | drop =>
    obtain ⟨inner, stages, hstory, hfailures, hrun⟩ := layer.run_release happ body server t
    refine ⟨.nothing, ⟨body.request, inner, false⟩, stages, hstory, by simp [Use.isLast],
      hfailures, ?_⟩
    simp [Application.use, wrap, hrun]
  | respond start =>
    obtain ⟨answer, inner, stages, hstory, hfailures, hrun⟩ :=
      layer.run_aside happ start body server t
    refine ⟨.answer answer, ⟨body.request, inner, body.isOpen⟩, stages, hstory,
      by simp [Use.isLast], hfailures, ?_⟩
    simp [Application.use, hrun]

theorem run_useAll (uses : List Use) (body : Traced σ) (server : Server) (t : Telemetry) :
    ∃ outcomes, ∃ after : Traced σ, ∃ stages,
      app.Story body.isOpen body.inner stages after.isOpen after.inner ∧
      after.isOpen = (body.isOpen && !(uses.zip outcomes).any fun (use, outcome) =>
        use.isLast outcome) ∧
      stages.filterMap Stage.failure? = outcomes.filterMap Outcome.failure? ∧
      ((layer.wrap app).useAll uses body).run server t =
        let last := layer.passAll ⟨body.request, server, t⟩ stages
        ((outcomes, { after with request := last.request }), last.server, last.telemetry) := by
  induction uses generalizing body server t with
  | nil => exact ⟨[], body, [], .nil _ _, by simp, rfl, by simp [Application.useAll]⟩
  | cons use uses ih =>
    obtain ⟨outcome, middle, stages, hstory, hopen, hfailures, hrun⟩ :=
      layer.run_use happ use body server t
    let course := layer.passAll ⟨body.request, server, t⟩ stages
    obtain ⟨outcomes, after, others, hstories, hopens, hmore, hruns⟩ :=
      ih { middle with request := course.request } course.server course.telemetry
    refine ⟨outcome :: outcomes, after, stages ++ others, hstory.append hstories, ?_, ?_, ?_⟩
    · simp only [hopens, hopen, List.zip_cons_cons, List.any_cons, Bool.not_or, Bool.and_assoc]
    · rw [List.filterMap_append, hfailures, hmore]
      cases hfailure : outcome.failure? <;> simp [hfailure]
    · simp [Application.useAll, hrun, hruns, passAll_append, course]

/-- Whatever is done with a request, it goes through a life of the application, and ends with the
failure that comes of it, if any. -/
theorem serve_stages (environ : Environ) (uses : List Use) (server : Server) (t : Telemetry) :
    let service := (layer.wrap app).serve environ uses server t
    service.state.isOpen = !service.isOver uses ∧
    ∃ stages, app.Life environ service.failure stages service.state.isOpen service.state.inner ∧
      service.course = layer.passAll (layer.opening environ server t) stages ∧
      stages.filterMap Stage.failure? = service.failures := by
  obtain ⟨moves, ⟨failure, inner⟩, hmakes, hrun⟩ :=
    layer.run_within (happ.call environ) (layer.opening environ server t)
  simp only [Course.result, opening] at hrun
  let first := layer.passAll (layer.opening environ server t)
    (.work moves :: failure.toList.map .fail)
  obtain ⟨outcomes, after, stages, hstory, hopen, hfailures, huses⟩ := layer.run_useAll happ uses
    ⟨first.request, inner, failure.isNone⟩ first.server first.telemetry
  have hcall : ((layer.wrap app).call environ).run server t =
      ((failure, ⟨first.request, inner, failure.isNone⟩), first.server, first.telemetry) := by
    cases failure <;> simp [wrap, call, hrun, first, opening, pass, conclude, fail]
  have hserve : (layer.wrap app).serve environ uses server t =
      let last := layer.passAll first stages
      { failure, outcomes, state := { after with request := last.request }
        server := last.server, telemetry := last.telemetry } := by
    simp [serve, hcall, huses]
  rw [hserve]
  refine ⟨?_, .work moves :: (failure.toList.map .fail ++ stages),
    ⟨moves, inner, stages, rfl, hmakes, hstory⟩, ?_, ?_⟩
  · cases failure <;> simp [hopen, Service.isOver]
  · simp [Service.course, first, passAll_append]
  · cases failure <;> simp [Stage.failure?, Service.failures, hfailures, List.filterMap_cons]

theorem serve_life (environ : Environ) (uses : List Use) (server : Server) (t : Telemetry) :
    let service := (layer.wrap app).serve environ uses server t
    service.state.isOpen = !service.isOver uses ∧
    ∃ stages, app.Life environ service.failure stages service.state.isOpen service.state.inner ∧
      service.course = layer.passAll (layer.opening environ server t) stages := by
  obtain ⟨hopen, stages, hlife, hcourse, _⟩ := layer.serve_stages happ environ uses server t
  exact ⟨hopen, stages, hlife, hcourse⟩

end Layer

end RequestTracing
