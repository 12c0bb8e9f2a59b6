import Mathlib.Data.Nat.Digits.Defs
import RequestTracing.Proofs.Text.ReadBack
/-!
Which texts are read as whole numbers: exactly one or more digits after an optional sign, with the
value of their places.
-/
namespace RequestTracing.Text

def digitValue (c : Char) : Nat := c.toNat - '0'.toNat

/-- The value of digits by their places, the last of which is that of the units. -/
def placesValue (digits : List Char) : Nat :=
  Nat.ofDigits 10 (digits.reverse.map digitValue)

/-- The texts that stand for whole numbers. There may be a sign and any number of zeros in front. -/
inductive IsNumeral : List Char → Int → Prop
  | digits {cs : List Char} (h : cs ≠ []) (hdigits : ∀ c ∈ cs, c.isDigit = true) :
      IsNumeral cs (placesValue cs)
  | plus {cs : List Char} (h : cs ≠ []) (hdigits : ∀ c ∈ cs, c.isDigit = true) :
      IsNumeral ('+' :: cs) (placesValue cs)
  | minus {cs : List Char} (h : cs ≠ []) (hdigits : ∀ c ∈ cs, c.isDigit = true) :
      IsNumeral ('-' :: cs) (-placesValue cs)

theorem digitsValue_eq_placesValue (cs : List Char) : digitsValue cs = placesValue cs := by
  unfold digitsValue placesValue
  rw [List.foldl_eq_foldr_reverse]
  induction cs.reverse with
  | nil => rfl
  | cons c cs ih => rw [List.foldr_cons, ih, List.map_cons, Nat.ofDigits_cons, digitValue,
      Nat.add_comm]

theorem readDigits?_eq_some_iff {cs : List Char} {n : Nat} :
    readDigits? cs = some n ↔ cs ≠ [] ∧ (∀ c ∈ cs, c.isDigit = true) ∧
      n = placesValue cs := by
  unfold readDigits?
  rw [← digitsValue_eq_placesValue]
  split
  · rename_i h
    simp only [Bool.and_eq_true, Bool.not_eq_true', List.isEmpty_eq_false_iff,
      List.all_eq_true] at h
    rw [Option.some.injEq]
    exact ⟨fun heq => ⟨h.1, h.2, heq.symm⟩, fun heq => heq.2.2.symm⟩
  · rename_i h
    constructor
    · intro hnone
      cases hnone
    · rintro ⟨hsome, hdigits, _⟩
      refine absurd ?_ h
      simpa [hsome] using hdigits

theorem readInteger?_eq_some_iff {cs : List Char} {n : Int} :
    readInteger? cs = some n ↔ IsNumeral cs n := by
  constructor
  · intro h
    unfold readInteger? at h
    split at h
    all_goals
      obtain ⟨m, hm, rfl⟩ := Option.map_eq_some_iff.mp h
      obtain ⟨hsome, hdigits, rfl⟩ := readDigits?_eq_some_iff.mp hm
    · exact .plus hsome hdigits
    · exact .minus hsome hdigits
    · exact .digits hsome hdigits
  · intro h
    have hread {cs : List Char} (hsome : cs ≠ []) (hdigits : ∀ c ∈ cs, c.isDigit = true) :
        readDigits? cs = some (placesValue cs) :=
      readDigits?_eq_some_iff.mpr ⟨hsome, hdigits, rfl⟩
    cases h with
    | digits hsome hdigits =>
      unfold readInteger?
      split
      · exact absurd (hdigits _ List.mem_cons_self) (by decide)
      · exact absurd (hdigits _ List.mem_cons_self) (by decide)
      · rw [hread hsome hdigits]
        rfl
    | plus hsome hdigits =>
      rw [readInteger?, hread hsome hdigits]
      rfl
    | minus hsome hdigits =>
      rw [readInteger?, hread hsome hdigits]
      rfl

theorem readInt64?_eq_some_iff {cs : List Char} {n : Int} :
    readInt64? cs = some n ↔ IsNumeral cs n ∧ -0x8000000000000000 ≤ n ∧ n < 0x8000000000000000 := by
  rw [readInt64?, Option.filter_eq_some_iff, readInteger?_eq_some_iff]
  simp [isInt64]

theorem readInteger?_decimal (n : Int) : readInteger? (decimal n).toList = some n := by
  cases n with
  | ofNat n =>
    have hdigits : ∀ c ∈ Nat.toDigits 10 n, c.isDigit = true :=
      fun c hc => Nat.isDigit_of_mem_toDigits (by decide) (by decide) hc
    rw [decimal, String.toList_ofList]
    unfold readInteger?
    split
    · rename_i hsign
      exact absurd (hdigits '+' (hsign ▸ List.mem_cons_self)) (by decide)
    · rename_i hsign
      exact absurd (hdigits '-' (hsign ▸ List.mem_cons_self)) (by decide)
    · rw [readDigits?_toDigits]
      rfl
  | negSucc n =>
    rw [decimal, String.toList_ofList, readInteger?, readDigits?_toDigits]
    rfl

end RequestTracing.Text
