import RequestTracing.Proofs.Dictionary.Lookup
import RequestTracing.Proofs.Text.ReadBack
import RequestTracing.Trace.Propagation
/-!
Trace context there and back. The headers that hand on a span name it to whoever receives them.
-/
namespace RequestTracing

/-- The digits in which identifiers are written: no sign, no separator, no capital letter and no
white space. -/
theorem Text.plain_of_mem_hexDigits {width n : Nat} {c : Char} (h : c ∈ Text.hexDigits width n) :
    c ≠ '+' ∧ c ≠ '-' ∧ c.isUpper = false ∧ Text.isBlank c = false := by
  have hplain : ∀ d < 16, Nat.digitChar d ≠ '+' ∧ Nat.digitChar d ≠ '-' ∧
      (Nat.digitChar d).isUpper = false ∧ Text.isBlank (Nat.digitChar d) = false := by decide
  obtain ⟨d, hd, rfl⟩ := Text.exists_digit_of_mem_hexDigits h
  exact hplain d hd

theorem SpanContext.isValid_iff {context : SpanContext} :
    context.isValid = true ↔ context.traceId ≠ 0 ∧ context.spanId ≠ 0 := by
  simp [isValid]

namespace TraceContext

variable {limit width n : Nat}

theorem readField?_hexDigits (hwidth : width ≠ 0) (hn : n < Nat.pow 16 width)
    (hlimit : n < limit) :
    readField? limit (Text.hexDigits width n) = some n := by
  have hsign : ∀ digits, Text.hexDigits width n ≠ '+' :: digits := by
    intro digits hdigits
    have hplus : '+' ∈ Text.hexDigits width n := hdigits ▸ List.mem_cons_self
    exact (Text.plain_of_mem_hexDigits hplus).1 rfl
  have hsome : Text.hexDigits width n ≠ [] := by
    rw [ne_eq, ← List.length_eq_zero_iff, Text.length_hexDigits]
    exact hwidth
  unfold readField?
  split
  · rename_i digits hdigits
    exact absurd hdigits (hsign digits)
  · have hread : Text.readHexDigits? (Text.hexDigits width n) = some n := by
      rw [Text.readHexDigits?_hexDigits, Nat.mod_eq_of_lt hn]
    simp [hsome, hread, hlimit]

theorem readIdentifier?_hexDigits (hwidth : width ≠ 0) (hn : n < Nat.pow 16 width)
    (hlimit : n < limit) :
    readIdentifier? limit (Text.hexDigits width n) = some n := by
  have hlower : (Text.hexDigits width n).any Char.isUpper = false :=
    List.any_eq_false.mpr fun c hc => by simp [(Text.plain_of_mem_hexDigits hc).2.2.1]
  rw [readIdentifier?, hlower]
  exact readField?_hexDigits hwidth hn hlimit

theorem terminated_parentText (context : SpanContext) :
    Text.terminated '-' (Text.trimChars (parentText context).toList) =
      [Text.hexDigits 2 0, Text.hexDigits 32 context.traceId.toNat,
        Text.hexDigits 16 context.spanId.toNat,
        Text.hexDigits 2 (context.flags &&& 1).toNat] := by
  have htext : (parentText context).toList =
      Text.hexDigits 2 0 ++ '-' :: (Text.hexDigits 32 context.traceId.toNat ++
        '-' :: (Text.hexDigits 16 context.spanId.toNat ++
          '-' :: Text.hexDigits 2 (context.flags &&& 1).toNat)) := by
    simp [parentText, SpanContext.traceText, SpanContext.spanText, Text.hexDigits]
  have hblank : ∀ c ∈ (parentText context).toList, Text.isBlank c = false := by
    intro c hc
    simp only [htext, List.mem_append, List.mem_cons] at hc
    rcases hc with hc | rfl | hc | rfl | hc | rfl | hc
    all_goals first | rfl | exact (Text.plain_of_mem_hexDigits hc).2.2.2
  have hhyphen (width n : Nat) : '-' ∉ Text.hexDigits width n :=
    fun hmem => (Text.plain_of_mem_hexDigits hmem).2.1 rfl
  unfold Text.terminated
  rw [Text.trimChars_eq_self hblank, htext, Text.pieces_append_cons (hhyphen _ _),
    Text.pieces_append_cons (hhyphen _ _), Text.pieces_append_cons (hhyphen _ _),
    Text.pieces_eq_singleton (hhyphen _ _)]
  simp [Text.hexDigits]

theorem readParent?_parentText {context : SpanContext} (hvalid : context.isValid = true) :
    readParent? (parentText context) =
      some { context with flags := context.flags &&& 1, remote := true, state := [] } := by
  have hversion : readField? 256 (Text.hexDigits 2 0) = some 0 :=
    readField?_hexDigits (by decide) (by decide) (by decide)
  have htrace : readIdentifier? (Nat.pow 2 128) (Text.hexDigits 32 context.traceId.toNat) =
      some context.traceId.toNat :=
    readIdentifier?_hexDigits (by decide) context.traceId.isLt context.traceId.isLt
  have hspan : readIdentifier? (Nat.pow 2 64) (Text.hexDigits 16 context.spanId.toNat) =
      some context.spanId.toNat :=
    readIdentifier?_hexDigits (by decide) context.spanId.isLt context.spanId.isLt
  have hbit : (context.flags &&& 1).toNat ≤ 1 := by
    rw [UInt8.toNat_and]
    exact Nat.and_le_right
  have hflags : readField? 256 (Text.hexDigits 2 (context.flags &&& 1).toNat) =
      some (context.flags &&& 1).toNat :=
    readField?_hexDigits (by decide) (Nat.lt_of_le_of_lt hbit (by decide)) (by omega)
  have hknown : ¬ maxFlags < (context.flags &&& 1).toNat := by
    unfold maxFlags
    omega
  have hsame : context.flags &&& 1 &&& 1 = context.flags &&& 1 := by
    rw [UInt8.and_assoc, UInt8.and_self]
  have hread : ({ context with flags := context.flags &&& 1, remote := true, state := [] } :
      SpanContext).isValid = true := hvalid
  unfold readParent?
  rw [terminated_parentText]
  generalize context.flags &&& 1 = bit at *
  simp [hversion, htrace, hspan, hflags, hknown, hsame, hread, maxVersion]

end TraceContext

namespace Propagator

theorem injectInto_eq (propagator : Propagator) (context : SpanContext)
    (headers : List (String × String)) :
    propagator.injectInto context headers = headers ++ propagator.inject context := by
  have hadd (added headers : List (String × String)) :
      added.foldl (fun headers pair => Carrier.set headers pair.1 pair.2) headers =
        headers ++ added := by
    induction added generalizing headers with
    | nil => simp
    | cons pair added ih =>
      rw [List.foldl_cons, ih]
      exact List.append_assoc headers [pair] added
  exact hadd _ _

/-- The headers that hand on a span are added after those of a response, and a request that brings
them names the span: its trace, its identifier and whether it is sampled. -/
theorem extract?_injectInto {context : SpanContext} (htrace : context.traceId ≠ 0)
    (hspan : context.spanId ≠ 0) (hstate : context.state = []) (headers : List (String × String))
    (environ : Environ) :
    ∃ added received,
      traceContext.injectInto context headers = headers ++ added ∧
      traceContext.extract? (environ.insertAll
        (added.map fun (name, value) => (Variable.ofHeader name, value))) = some received ∧
      received.remote = true ∧ received.traceId = context.traceId ∧
      received.spanId = context.spanId ∧ received.isSampled = context.isSampled ∧
      received.state = [] := by
  have hvalid : context.isValid = true := SpanContext.isValid_iff.mpr ⟨htrace, hspan⟩
  have hadded : traceContext.inject context =
      [(TraceContext.parentHeader, TraceContext.parentText context),
        (TraceContext.stateHeader, "")] := by
    simp [inject, hvalid, hstate, TraceState.header]
  let request := environ.insertAll ((traceContext.inject context).map
    fun (name, value) => (Variable.ofHeader name, value))
  have hget (name : String) : Carrier.get? request name =
      if Variable.ofHeader TraceContext.stateHeader = Variable.ofHeader name then some ""
      else if Variable.ofHeader TraceContext.parentHeader = Variable.ofHeader name then
        some (TraceContext.parentText context)
      else Carrier.get? environ name := by
    simp only [request, hadded, Carrier.get?, List.map_cons, List.map_nil, Dictionary.insertAll,
      List.foldl_cons, List.foldl_nil, Dictionary.get?_insert]
  have hparent : Carrier.get? request TraceContext.parentHeader =
      some (TraceContext.parentText context) := by
    rw [hget, if_neg (by decide), if_pos rfl]
  have hstateHeader : Carrier.get? request TraceContext.stateHeader = some "" := by
    rw [hget, if_pos rfl]
  refine ⟨traceContext.inject context,
    { context with flags := context.flags &&& 1, remote := true, state := [] },
    injectInto_eq _ _ _, ?_, rfl, rfl, rfl, ?_, rfl⟩
  · change traceContext.extract? request = _
    simp only [extract?, hparent, hstateHeader, Option.getD_some,
      TraceContext.readParent?_parentText hvalid, Option.map_some]
    rfl
  · unfold SpanContext.isSampled
    rw [UInt8.and_assoc, UInt8.and_self]

theorem extract?_injectInto_flagged :
    let context : SpanContext := { traceId := 0x1234, spanId := 0xAB, flags := 0xFF }
    let headers := [("traceparent", "old"), ("Content-Type", "text/plain")]
    context.traceId ≠ 0 ∧ context.spanId ≠ 0 ∧ context.state = [] ∧
    ∃ added received,
      traceContext.injectInto context headers = headers ++ added ∧
      traceContext.extract? (Dictionary.insertAll .empty
        (added.map fun (name, value) => (Variable.ofHeader name, value))) = some received ∧
      received.remote = true ∧ received.traceId = 0x1234 ∧ received.spanId = 0xAB ∧
      received.isSampled = true ∧ received.state = [] := by
  intro context headers
  have htrace : context.traceId ≠ 0 := by decide
  have hspan : context.spanId ≠ 0 := by decide
  have hsampled : context.isSampled = true := by decide
  have hround := extract?_injectInto htrace hspan rfl headers .empty
  rw [hsampled] at hround
  exact ⟨htrace, hspan, rfl, hround⟩

end Propagator

end RequestTracing
