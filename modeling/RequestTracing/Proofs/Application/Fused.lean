import RequestTracing.Proofs.Program.Simulation
/-!
Applications whose body is closed and dropped as soon as it has come to its end. Nothing more is
asked of such a body, and its holder gets nothing more from it.
-/
namespace RequestTracing

/-- Whether an application depends on nothing but its environment and the answers to its starts of
the response, as long as its state is of some kind. -/
structure Application.IsBlind {σ : Type} (P : σ → Prop) (app : Application σ) : Prop where
  call : ∀ environ, (app.call environ).IsBlind fun (_, state) => P state
  next : ∀ {state}, P state → (app.next state).IsBlind fun (_, state) => P state
  close : ∀ {state}, P state → (app.close state).IsBlind P
  drop : ∀ {state}, P state → (app.drop state).IsBlind P
  respond : ∀ start {state}, P state → (app.respond start state).IsBlind fun (_, state) => P state

/-- The state of an application with a fused body. -/
structure Fused (σ : Type) where
  inner : σ
  isOpen : Bool

namespace Application

variable {σ : Type} (app : Application σ)

/-- Closes the body and lets go of it, the first time. -/
def fuse (body : Fused σ) : Program (Fused σ) := do
  if body.isOpen then
    let inner ← app.close body.inner >>= app.drop
    return { inner, isOpen := false }
  else return body

def fused : Application (Fused σ) where
  call environ := do
    let (failure, inner) ← app.call environ
    return (failure, { inner, isOpen := failure.isNone })
  next body := do
    if body.isOpen then
      let (item, inner) ← app.next body.inner
      match item with
      | some (.ok chunk) => return (some (.ok chunk), { inner, isOpen := true })
      | item => return (item, ← app.fuse { inner, isOpen := true })
    else return (none, body)
  close := app.fuse
  drop := app.fuse
  keeps body := app.keeps body.inner
  respond start body := do
    let (answer, inner) ← app.respond start body.inner
    return (answer, { body with inner })

end Application

namespace Use

def isAside : Use → Bool
  | .respond _ => true
  | _ => false

/-- What is done with a body itself at the last use of a fused body: it is asked for a chunk if that
is the use, and then it is closed and dropped. -/
def atLast : Use → Outcome → List (Use × Outcome)
  | .next, outcome => [(.next, outcome), (.close, .nothing), (.drop, .nothing)]
  | _, _ => [(.close, .nothing), (.drop, .nothing)]

end Use

/-- What is done with a body itself, and what comes of it, when uses of the fused body come to some
outcomes. -/
def passedOn (held : Bool) : List (Use × Outcome) → List (Use × Outcome)
  | [] => []
  | (use, outcome) :: rest =>
    if use.isAside then (use, outcome) :: passedOn held rest
    else if held then
      if use.isLast outcome then use.atLast outcome ++ passedOn false rest
      else (use, outcome) :: passedOn held rest
    else passedOn held rest

/-- How uses of a fused body are passed on to the body itself. If the application has failed there
is no body. Otherwise the body is used as the fused body is, up to and including the last use; then
it is closed and dropped, once, and left alone, and the fused body gives nothing more. -/
inductive Passed : Option Failure → List (Use × Outcome) → List (Use × Outcome) → Prop
  | failed (failure : Failure) {pairs : List (Use × Outcome)}
      (nothing : ∀ outcome, (.next, outcome) ∈ pairs → outcome = .item none) :
      Passed (some failure) pairs (pairs.filter fun (use, _) => use.isAside)
  | held {pairs : List (Use × Outcome)}
      (lasts : ∀ pair ∈ pairs, pair.1.isLast pair.2 = false) : Passed none pairs pairs
  | done {first late : List (Use × Outcome)} {use : Use} {outcome : Outcome}
      (lasts : ∀ pair ∈ first, pair.1.isLast pair.2 = false)
      (ends : use.isLast outcome = true)
      (nothing : ∀ outcome, (.next, outcome) ∈ late → outcome = .item none) :
      Passed none (first ++ (use, outcome) :: late)
        (first ++ use.atLast outcome ++ late.filter fun (use, _) => use.isAside)

namespace Application

variable {σ : Type} (app : Application σ)

theorem run_use_fused (use : Use) (body : Fused σ) (server : Server) (t : Telemetry) :
    ∃ outcome, ∃ after : Fused σ, ∃ last lastT,
      (app.fused.use use body).run server t = ((outcome, after), last, lastT) ∧
      after.isOpen = (body.isOpen && !use.isLast outcome) ∧
      (body.isOpen = false → use = .next → outcome = .item none) ∧
      (app.useAll ((passedOn body.isOpen [(use, outcome)]).map (·.1)) body.inner).run server t =
        (((passedOn body.isOpen [(use, outcome)]).map (·.2), after.inner), last, lastT) := by
  obtain ⟨inner, isOpen⟩ := body
  refine ⟨_, _, _, _, rfl, ?_⟩
  cases use with
  | next =>
    cases isOpen with
    | false => simp [Application.use, fused, passedOn, useAll, Use.isAside]
    | true =>
      rcases hitem : ((app.next inner).run server t).1.1 with _ | failure | chunk
      · simp [Application.use, fused, fuse, passedOn, useAll, hitem, Use.isAside,
          Use.isLast, Use.atLast]
      · simp [Application.use, fused, fuse, passedOn, useAll, hitem, Use.isAside,
          Use.isLast, Use.atLast]
      · simp [Application.use, fused, passedOn, useAll, hitem, Use.isAside, Use.isLast]
  | close =>
    cases isOpen <;>
      simp [Application.use, fused, fuse, passedOn, useAll, Use.isAside, Use.isLast, Use.atLast]
  | drop =>
    cases isOpen <;>
      simp [Application.use, fused, fuse, passedOn, useAll, Use.isAside, Use.isLast, Use.atLast]
  | respond start =>
    simp [Application.use, fused, passedOn, useAll, Use.isAside, Use.isLast]

theorem run_useAll_append (first second : List Use) (state : σ) (server : Server) (t : Telemetry) :
    (app.useAll (first ++ second) state).run server t =
      let ((outcomes, state), server, t) := (app.useAll first state).run server t
      let ((others, state), server, t) := (app.useAll second state).run server t
      ((outcomes ++ others, state), server, t) := by
  induction first generalizing state server t with
  | nil => simp [useAll]
  | cons use first ih => simp [useAll, ih]

end Application

theorem passedOn_cons (held : Bool) (use : Use) (outcome : Outcome) (rest : List (Use × Outcome)) :
    passedOn held ((use, outcome) :: rest) =
      passedOn held [(use, outcome)] ++ passedOn (held && !use.isLast outcome) rest := by
  cases use with
  | respond start => simp [passedOn, Use.isAside, Use.isLast]
  | close => cases held <;> simp [passedOn, Use.isAside, Use.isLast]
  | drop => cases held <;> simp [passedOn, Use.isAside, Use.isLast]
  | next =>
    cases hlast : Use.next.isLast outcome <;> cases held <;> simp [passedOn, Use.isAside, hlast]

/-- Of a body that is not held, only the starts that were kept are left. -/
theorem passedOn_false (pairs : List (Use × Outcome)) :
    passedOn false pairs = pairs.filter fun (use, _) => use.isAside := by
  induction pairs with
  | nil => rfl
  | cons pair pairs ih =>
    simp only [passedOn, ih, List.filter_cons]
    split <;> rfl

theorem passedOn_append {first : List (Use × Outcome)}
    (h : ∀ pair ∈ first, pair.1.isLast pair.2 = false) (rest : List (Use × Outcome)) :
    passedOn true (first ++ rest) = first ++ passedOn true rest := by
  induction first with
  | nil => rfl
  | cons pair first ih =>
    obtain ⟨hpair, hfirst⟩ := List.forall_mem_cons.mp h
    rw [List.cons_append, List.cons_append, ← ih hfirst]
    simp [passedOn, hpair]

theorem passedOn_last {use : Use} {outcome : Outcome} (h : use.isLast outcome = true)
    (late : List (Use × Outcome)) :
    passedOn true ((use, outcome) :: late) =
      use.atLast outcome ++ late.filter fun (use, _) => use.isAside := by
  have haside : use.isAside = false := by
    cases use with
    | respond start => simp [Use.isLast] at h
    | _ => rfl
  simp [passedOn, haside, h, passedOn_false]

theorem passedOn_passed (failure : Option Failure) {pairs : List (Use × Outcome)}
    (h : ∀ first outcome rest, pairs = first ++ (.next, outcome) :: rest →
      (failure.isNone && !first.any fun (use, outcome) => use.isLast outcome) = false →
      outcome = .item none) : Passed failure pairs (passedOn failure.isNone pairs) := by
  cases failure with
  | some failure =>
    rw [Option.isNone_some, passedOn_false]
    refine .failed failure fun outcome he => ?_
    obtain ⟨first, rest, hpairs⟩ := List.append_of_mem he
    exact h first outcome rest hpairs rfl
  | none =>
    rw [Option.isNone_none]
    cases hfind : pairs.find? fun (use, outcome) => use.isLast outcome with
    | none =>
      have hlasts : ∀ pair ∈ pairs, pair.1.isLast pair.2 = false := by
        simpa using List.find?_eq_none.mp hfind
      have hall := passedOn_append hlasts []
      rw [List.append_nil] at hall
      rw [hall]
      simpa [passedOn] using Passed.held hlasts
    | some last =>
      obtain ⟨hlast, first, late, rfl, hfirst⟩ := List.find?_eq_some_iff_append.mp hfind
      have hlasts : ∀ pair ∈ first, pair.1.isLast pair.2 = false := by simpa using hfirst
      rw [passedOn_append hlasts, passedOn_last hlast, ← List.append_assoc]
      refine .done hlasts hlast fun outcome he => ?_
      obtain ⟨others, rest, rfl⟩ := List.append_of_mem he
      exact h (first ++ last :: others) outcome rest (by simp) (by simp [hlast])

namespace Application

variable {σ : Type} (app : Application σ)

/-- Uses of a fused body are what is passed on to the body itself, and once it is not held any more
its holder gets nothing from it. -/
theorem run_useAll_fused (uses : List Use) (body : Fused σ) (server : Server) (t : Telemetry) :
    ∃ outcomes, ∃ after : Fused σ, ∃ last lastT,
      (app.fused.useAll uses body).run server t = ((outcomes, after), last, lastT) ∧
      outcomes.length = uses.length ∧
      (∀ first outcome rest, uses.zip outcomes = first ++ (.next, outcome) :: rest →
        (body.isOpen && !first.any fun (use, outcome) => use.isLast outcome) = false →
        outcome = .item none) ∧
      (app.useAll ((passedOn body.isOpen (uses.zip outcomes)).map (·.1)) body.inner).run server t =
        (((passedOn body.isOpen (uses.zip outcomes)).map (·.2), after.inner), last, lastT) := by
  induction uses generalizing body server t with
  | nil => exact ⟨[], body, server, t, by simp [useAll, passedOn]⟩
  | cons use uses ih =>
    obtain ⟨outcome, middle, server₁, t₁, hrun, hopen, hnone, hpassed⟩ :=
      app.run_use_fused use body server t
    obtain ⟨outcomes, after, last, lastT, hruns, hlength, hnones, hrest⟩ := ih middle server₁ t₁
    refine ⟨outcome :: outcomes, after, last, lastT, ?_, by simp [hlength], ?_, ?_⟩
    · simp [useAll, hrun, hruns]
    · intro first other rest hzip hover
      cases first with
      | nil =>
        simp only [List.zip_cons_cons, List.nil_append, List.cons.injEq, Prod.mk.injEq] at hzip
        obtain ⟨⟨rfl, rfl⟩, _⟩ := hzip
        exact hnone (by simpa using hover) rfl
      | cons pair first =>
        simp only [List.zip_cons_cons, List.cons_append, List.cons.injEq] at hzip
        obtain ⟨rfl, hzip⟩ := hzip
        apply hnones first other rest hzip
        rw [hopen]
        simpa [Bool.and_assoc] using hover
    · rw [List.zip_cons_cons, passedOn_cons, List.map_append, List.map_append,
        run_useAll_append, hpassed, ← hopen]
      simp [hrest]

/-- A request with a fused body is a request with the body itself, of which what is passed on is
made use. -/
theorem serve_fused (environ : Environ) (uses : List Use) (server : Server) (t : Telemetry) :
    let service := app.fused.serve environ uses server t
    ∃ passed, service.outcomes.length = uses.length ∧
      Passed service.failure (uses.zip service.outcomes) passed ∧
      app.serve environ (passed.map (·.1)) server t =
        { failure := service.failure, outcomes := passed.map (·.2), state := service.state.inner
          server := service.server, telemetry := service.telemetry } := by
  rcases hcall : (app.call environ).run server t with ⟨⟨failure, inner⟩, server₁, t₁⟩
  obtain ⟨outcomes, after, last, lastT, hruns, hlength, hnone, hpassed⟩ :=
    app.run_useAll_fused uses { inner, isOpen := failure.isNone } server₁ t₁
  have hfused : (app.fused.call environ).run server t =
      ((failure, { inner, isOpen := failure.isNone }), server₁, t₁) := by
    simp [fused, hcall]
  have hserve : app.fused.serve environ uses server t =
      { failure, outcomes, state := after, server := last, telemetry := lastT } := by
    simp [serve, hfused, hruns]
  rw [hserve]
  refine ⟨passedOn failure.isNone (uses.zip outcomes), hlength, passedOn_passed failure hnone, ?_⟩
  simp [serve, hcall, hpassed]

end Application

end RequestTracing
