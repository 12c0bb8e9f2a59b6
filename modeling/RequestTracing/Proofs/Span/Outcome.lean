import RequestTracing.Span.Response
/-!
The outcome of an exported span. Outcomes are in an order, and a span that is offered one outcome
after another keeps the greatest of them. So the outcome offered last is kept only if none of the
others outranks it.
-/
namespace RequestTracing

namespace SpanStatus

theorem outranks_self (status : SpanStatus) : status.outranks status = false := by
  cases status with
  | unset => rfl
  | ok => rfl
  | error description => exact decide_eq_false (String.lt_irrefl description)

theorem eq_of_not_outranks {first second : SpanStatus} (h : first.outranks second = false)
    (hother : second.outranks first = false) : first = second := by
  cases first with
  | unset => cases second <;> simp_all [outranks]
  | ok => cases second <;> simp_all [outranks]
  | error description =>
    cases second with
    | unset => simp [outranks] at h
    | ok => simp [outranks] at hother
    | error other =>
      have hle : description ≤ other := String.not_lt.mp (of_decide_eq_false h)
      have hge : other ≤ description := String.not_lt.mp (of_decide_eq_false hother)
      exact congrArg error (String.le_antisymm hle hge)

theorem outranks_trans {first second third : SpanStatus} (h : first.outranks second = true)
    (hother : second.outranks third = true) : first.outranks third = true := by
  cases second with
  | unset => simp [outranks] at hother
  | ok => cases first <;> simp [outranks] at h
  | error description =>
    cases first with
    | unset => simp [outranks] at h
    | ok => cases third <;> simp_all [outranks]
    | error greatest =>
      cases third with
      | unset => rfl
      | ok => simp [outranks] at hother
      | error least =>
        have hlow : least < description := of_decide_eq_true hother
        have hhigh : description < greatest := of_decide_eq_true h
        exact decide_eq_true (String.lt_trans hlow hhigh)

/-- The outcome of a span that had one and is offered another. -/
def raised (old new : SpanStatus) : SpanStatus :=
  if new.outranks old then new else old

@[simp] theorem raised_unset (old : SpanStatus) : old.raised .unset = old := rfl

/-- The outcome of a span that was offered some outcomes one after the other. -/
def greatest (offered : List SpanStatus) : SpanStatus :=
  offered.foldl raised .unset

/-- An outcome is outranked by what two come to if one of the two outranks it. -/
theorem raised_outranks (old new other : SpanStatus) :
    (old.raised new).outranks other = (old.outranks other || new.outranks other) := by
  unfold raised
  cases hnew : new.outranks old with
  | true =>
    rw [if_pos rfl]
    cases hold : old.outranks other with
    | false => simp
    | true => simp [outranks_trans hnew hold]
  | false =>
    rw [if_neg (by simp)]
    cases hother : new.outranks other with
    | false => simp
    | true =>
      cases hold : old.outranks other with
      | true => rfl
      | false =>
        -- The old outcome is not above the other, so the new one would be above the old one.
        cases habove : other.outranks old with
        | true => simp [outranks_trans hother habove] at hnew
        | false => simp [eq_of_not_outranks hold habove, hother] at hnew

theorem greatest_outranks (offered : List SpanStatus) (other : SpanStatus) :
    (greatest offered).outranks other = offered.any (·.outranks other) := by
  have hfold (old : SpanStatus) : (offered.foldl raised old).outranks other =
      (old.outranks other || offered.any (·.outranks other)) := by
    induction offered generalizing old with
    | nil => simp
    | cons first offered ih =>
      rw [List.foldl_cons, ih, raised_outranks, List.any_cons, Bool.or_assoc]
  simpa [greatest, outranks] using hfold .unset

/-- An outcome among those offered is kept just if none of them outranks it. -/
theorem greatest_eq_iff {offered : List SpanStatus} {status : SpanStatus} (h : status ∈ offered) :
    greatest offered = status ↔ ∀ other ∈ offered, other.outranks status = false := by
  have hbelow : status.outranks (greatest offered) = false := by
    have hself := greatest_outranks offered (greatest offered)
    rw [outranks_self] at hself
    simpa using List.any_eq_false.mp hself.symm status h
  have hany := greatest_outranks offered status
  constructor
  · intro heq other hother
    rw [heq, outranks_self] at hany
    simpa using List.any_eq_false.mp hany.symm other hother
  · intro hnone
    have hfalse : offered.any (·.outranks status) = false :=
      List.any_eq_false.mpr fun other hother => by simp [hnone other hother]
    exact eq_of_not_outranks (hany.trans hfalse) hbelow

end SpanStatus

namespace Http

def lineOutcome (line : String) : SpanStatus :=
  match statusCode? line with
  | some code => statusOutcome code true
  | none => unreadableStatus line

theorem lineOutcome_outranks_error (line : String) (failure : Failure) :
    (lineOutcome line).outranks (.error failure) =
      ((statusCode? line).isNone && (unreadableStatus line).outranks (.error failure)) := by
  unfold lineOutcome
  cases hcode : statusCode? line with
  | none => simp
  | some code =>
    have hempty : ¬ failure < "" := List.not_lt_nil failure.toList
    have hfailed : (SpanStatus.error "").outranks (.error failure) = false := by
      simpa [SpanStatus.outranks] using hempty
    have hunset : SpanStatus.unset.outranks (.error failure) = false := rfl
    simp only [statusOutcome, Option.isNone_some, Bool.false_and]
    split
    · exact hfailed
    split
    · exact hunset
    split
    · exact hunset
    · exact hfailed

end Http

end RequestTracing
