import Mathlib.Data.List.TakeWhile
import RequestTracing.Proofs.Request.StatusCode
import RequestTracing.Proofs.Text.Numerals
/-!
Which status lines have a status code: those that start with a whole number of 64 bits before the
first space. A span is given the code, or else the failure to read it.
-/
namespace RequestTracing

namespace Http

/-- Whether a text is what a status line has before its first space, or all of a line without
one. -/
def IsStatusToken (line : String) (token : List Char) : Prop :=
  ' ' ∉ token ∧ (line.toList = token ∨ ∃ rest, line.toList = token ++ ' ' :: rest)

theorem isStatusToken_iff {line : String} {token : List Char} :
    IsStatusToken line token ↔ token = statusToken line := by
  unfold statusToken
  constructor
  · rintro ⟨hspace, hline⟩
    have htoken : ∀ c ∈ token, (fun c => decide (c ≠ ' ')) c = true := by
      intro c hc
      have hne : c ≠ ' ' := fun heq => hspace (heq ▸ hc)
      simpa using hne
    rcases hline with hline | ⟨rest, hline⟩
    · rw [hline, List.takeWhile_eq_self_iff.mpr htoken]
    · rw [hline, Text.takeWhile_append_stop htoken (by simp)]
  · rintro rfl
    refine ⟨fun hmem => absurd (List.mem_takeWhile_imp hmem) (by decide), ?_⟩
    have hline := List.takeWhile_append_dropWhile (p := (· ≠ ' ')) (l := line.toList)
    have hstop := Text.head?_dropWhile (· ≠ ' ') line.toList
    cases hrest : line.toList.dropWhile (· ≠ ' ') with
    | nil =>
      rw [hrest, List.append_nil] at hline
      exact .inl hline.symm
    | cons c rest =>
      have hspace : c = ' ' := by
        rw [hrest] at hstop
        simpa using hstop c rfl
      rw [hrest, hspace] at hline
      exact .inr ⟨rest, hline.symm⟩

theorem statusCode?_eq_some_iff {line : String} {code : Int} :
    statusCode? line = some code ↔ ∃ token, IsStatusToken line token ∧
      Text.IsNumeral token code ∧ -0x8000000000000000 ≤ code ∧ code < 0x8000000000000000 := by
  rw [statusCode?, Text.readInt64?_eq_some_iff]
  simp only [isStatusToken_iff, exists_eq_left]

theorem statusCode?_of_token {line : String} {code : Int} (hmin : -0x8000000000000000 ≤ code)
    (hmax : code < 0x8000000000000000) (h : IsStatusToken line (Text.decimal code).toList) :
    statusCode? line = some code :=
  statusCode?_eq_some_iff.mpr
    ⟨_, h, Text.readInteger?_eq_some_iff.mp (Text.readInteger?_decimal code), hmin, hmax⟩

theorem space_not_mem_decimal (n : Int) : ' ' ∉ (Text.decimal n).toList := by
  have hdigit {m : Nat} (hmem : ' ' ∈ Nat.toDigits 10 m) : False :=
    absurd (Nat.isDigit_of_mem_toDigits (by decide) (by decide) hmem) (by decide)
  cases n with
  | ofNat n => exact fun hmem => hdigit (by simpa [Text.decimal] using hmem)
  | negSucc n => exact fun hmem => hdigit (by simpa [Text.decimal] using hmem)

/-- What a span that keeps updates is given for a status line: the code with the outcome that it
stands for, or a failure that shows the part without a code. -/
def statusActions (line : String) : List SpanAction :=
  match statusCode? line with
  | some code => [.setAttribute statusCodeAttribute (.int code),
      .setStatus (statusOutcome code true)]
  | none => [.setStatus (unreadableStatus line)]

end Http

namespace Span

theorem applyStatus_eq_actAll {span : Span} {t : Telemetry} (h : span.isRecording t = true)
    (line : String) : span.applyStatus line t = span.actAll (Http.statusActions line) t := by
  unfold applyStatus Http.statusActions
  rw [if_pos h]
  cases Http.statusCode? line <;> rfl

end Span

namespace Http

/-- A status line has a code just if it starts with a whole number of 64 bits before the first space,
and a code in decimal is always read back. A span that keeps updates has the code as its attribute
from then on, and is given nothing but the failure, which shows what stands in place of a code, if
there is none. -/
theorem statusCode?_reads (line : String) :
    (∀ code : Int, statusCode? line = some code ↔ ∃ token, IsStatusToken line token ∧
      Text.IsNumeral token code ∧ -0x8000000000000000 ≤ code ∧ code < 0x8000000000000000) ∧
    (∀ code : Int, -0x8000000000000000 ≤ code → code < 0x8000000000000000 →
      statusCode? (Text.decimal code) = some code ∧
      ∀ reason : String, statusCode? (Text.decimal code ++ " " ++ reason) = some code) ∧
    ∀ (span : Span) (t : Telemetry), span.isRecording t = true →
      Span.Sets "http.status_code" ((statusCode? line).map .int) (span, t)
        (span.applyStatus line t) ∧
      (∀ code, statusCode? line = some code → span.applyStatus line t =
        span.actAll [.setAttribute "http.status_code" (.int code),
          .setStatus (statusOutcome code true)] t) ∧
      (statusCode? line = none → ∀ token, IsStatusToken line token → span.applyStatus line t =
        span.actAll [.setStatus (.error
          ("Non-integer HTTP status: " ++ Text.quoted (.ofList token)))] t) := by
  refine ⟨fun code => statusCode?_eq_some_iff, ?_, ?_⟩
  · intro code hmin hmax
    have hspace := space_not_mem_decimal code
    refine ⟨statusCode?_of_token hmin hmax ⟨hspace, .inl rfl⟩, fun reason => ?_⟩
    exact statusCode?_of_token hmin hmax ⟨hspace, .inr ⟨reason.toList, by simp⟩⟩
  · intro span t hrecording
    have hactions := Span.applyStatus_eq_actAll hrecording line
    refine ⟨Span.applyStatus_sets hrecording line, fun code hcode => ?_, fun hnone token htoken => ?_⟩
    · rw [hactions, statusActions, hcode]
      rfl
    · rw [hactions, statusActions, hnone, isStatusToken_iff.mp htoken]
      rfl

theorem statusCode?_reads_signed :
    let span : Span := .observed 0 .server
    span.isRecording {} = true ∧ statusCode? "+0200 OK" = some 200 ∧
      (span.applyStatus "+0200 OK" {}).2.events =
        [.setAttribute 0 "http.status_code" (.int 200), .setStatus 0 .unset] ∧
      statusCode? (Text.decimal (-0x8000000000000000) ++ " " ++ "1") = some (-0x8000000000000000) ∧
      statusCode? "9223372036854775808 x" = none ∧
      IsStatusToken "9223372036854775808 x" "9223372036854775808".toList ∧
      (span.applyStatus "9223372036854775808 x" {}).2.events =
        [.setStatus 0 (.error "Non-integer HTTP status: \"9223372036854775808\"")] := by
  intro span
  have hcode : statusCode? "+0200 OK" = some 200 := by decide
  have hnone : statusCode? "9223372036854775808 x" = none := by decide
  have htoken : IsStatusToken "9223372036854775808 x" "9223372036854775808".toList :=
    isStatusToken_iff.mpr (by decide)
  have hset := ((statusCode?_reads "+0200 OK").2.2 span {} rfl).2.1 200 hcode
  have hfailed := ((statusCode?_reads "9223372036854775808 x").2.2 span {} rfl).2.2 hnone _ htoken
  have hprinted := (statusCode?_reads "").2.1 (-0x8000000000000000) (by decide) (by decide)
  refine ⟨rfl, hcode, ?_, hprinted.2 "1", hnone, htoken, ?_⟩
  · rw [hset]
    rfl
  · rw [hfailed]
    have hquoted : "Non-integer HTTP status: " ++
        Text.quoted (.ofList "9223372036854775808".toList) =
          "Non-integer HTTP status: \"9223372036854775808\"" := by decide +kernel
    rw [hquoted]
    rfl

end Http

end RequestTracing
