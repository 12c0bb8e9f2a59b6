import RequestTracing.Proofs.Text.ReadBack
import RequestTracing.Text.Percent
/-!
What a text in percent encoding stands for. Encoded bytes are read back, and decoding leaves a text
alone just if no percent sign of it stands before two hexadecimal digits.
-/
namespace RequestTracing.Text

theorem percentDecode_cons {c : Char} (h : c ≠ '%') (cs : List Char) :
    percentDecode (c :: cs) = utf8Bytes c ++ percentDecode cs := by
  rw [percentDecode]
  intro high low rest heq
  exact absurd heq h

theorem utf8Bytes_eq_singleton {c : Char} (h : c.toNat < 0x80) :
    utf8Bytes c = [UInt8.ofNat c.toNat] := by
  have hval : c.val.toNat ≤ 127 := Nat.le_of_lt_succ h
  unfold utf8Bytes String.utf8EncodeChar
  exact if_pos hval

/-- What holds of all code points below 0x80 holds of all ASCII characters. -/
theorem forall_ascii {P : Char → Prop} (h : ∀ n < 0x80, P (Char.ofNat n)) {c : Char}
    (hc : c.toNat < 0x80) : P c :=
  Char.ofNat_toNat c ▸ h c.toNat hc

theorem forall_mem_of_all {P : Char → Prop} [DecidablePred P] {cs : List Char}
    (h : cs.all (fun c => decide (P c)) = true) : ∀ c ∈ cs, P c :=
  fun c hc => of_decide_eq_true (List.all_eq_true.mp h c hc)

theorem toNat_lt_of_isDigit {c : Char} (h : c.isDigit = true) : c.toNat < 0x80 := by
  simp only [Char.isDigit, Bool.and_eq_true, decide_eq_true_eq] at h
  exact Nat.lt_of_le_of_lt (UInt32.le_iff_toNat_le.mp h.2) (by decide)

theorem hexDigit?_upperHexDigit {n : Nat} (h : n < 16) : hexDigit? (upperHexDigit n) = some n := by
  revert n
  decide

theorem percentDecode_percentTriplet (b : UInt8) (cs : List Char) :
    percentDecode (percentTriplet b ++ cs) = b :: percentDecode cs := by
  have hhigh : hexDigit? (upperHexDigit (b.toNat / 16)) = some (b.toNat / 16) :=
    hexDigit?_upperHexDigit (Nat.div_lt_of_lt_mul b.toNat_lt)
  have hlow : hexDigit? (upperHexDigit (b.toNat % 16)) = some (b.toNat % 16) :=
    hexDigit?_upperHexDigit (Nat.mod_lt _ (by decide))
  simp [percentTriplet, percentDecode, hhigh, hlow, Nat.div_add_mod]

/-- Encoded bytes are read back, if no percent sign is written as it is. -/
theorem percentDecode_percentEncode {safe : UInt8 → Bool}
    (hsafe : ∀ b, safe b = true → b.toNat < 0x80 ∧ b ≠ 0x25) (bytes : List UInt8) :
    percentDecode (percentEncode safe bytes) = bytes := by
  induction bytes with
  | nil => rfl
  | cons b bytes ih =>
    unfold percentEncode at ih ⊢
    rw [List.flatMap_cons]
    by_cases hb : safe b = true
    · obtain ⟨hascii, hsign⟩ := hsafe b hb
      have hnat : (Char.ofNat b.toNat).toNat = b.toNat := by
        rw [Char.ofNat, dif_pos (.inl (by omega))]
        rfl
      have hchar : Char.ofNat b.toNat ≠ '%' := by
        intro heq
        have hvalue : b.toNat = 0x25 := by rw [← hnat, heq]; rfl
        exact hsign (UInt8.toNat_inj.mp hvalue)
      rw [if_pos hb, List.singleton_append, percentDecode_cons hchar,
        utf8Bytes_eq_singleton (by omega), ih, hnat, UInt8.ofNat_toNat, List.singleton_append]
    · rw [if_neg hb, percentDecode_percentTriplet, ih]

/-- Whether a percent sign stands before two hexadecimal digits. -/
def HasTriplet (cs : List Char) : Prop :=
  ∃ high low, (hexDigit? high).isSome = true ∧ (hexDigit? low).isSome = true ∧
    ['%', high, low] <:+: cs

theorem HasTriplet.cons {c : Char} {cs : List Char} (h : HasTriplet cs) : HasTriplet (c :: cs) := by
  obtain ⟨high, low, hhigh, hlow, hinfix⟩ := h
  exact ⟨high, low, hhigh, hlow, List.infix_cons hinfix⟩

theorem HasTriplet.mem {cs : List Char} (h : HasTriplet cs) : '%' ∈ cs := by
  obtain ⟨high, low, _, _, hinfix⟩ := h
  exact hinfix.subset List.mem_cons_self

/-- Such a percent sign is the first character, or it is in the rest. -/
theorem HasTriplet.of_cons {c : Char} {cs : List Char} (h : HasTriplet (c :: cs)) :
    (∃ high low rest, c = '%' ∧ cs = high :: low :: rest ∧ (hexDigit? high).isSome = true ∧
      (hexDigit? low).isSome = true) ∨ HasTriplet cs := by
  obtain ⟨high, low, hhigh, hlow, hinfix⟩ := h
  rcases List.infix_cons_iff.mp hinfix with ⟨rest, hstart⟩ | hrest
  · obtain ⟨hsign, hcs⟩ := List.cons.inj hstart
    exact .inl ⟨high, low, rest, hsign.symm, hcs.symm, hhigh, hlow⟩
  · exact .inr ⟨high, low, hhigh, hlow, hrest⟩

theorem percentDecode_eq_flatMap {cs : List Char} (h : ¬HasTriplet cs) :
    percentDecode cs = cs.flatMap utf8Bytes := by
  fun_induction percentDecode cs with
  | case1 => rfl
  | case2 high low cs h l hlow hhigh ih =>
    exact absurd ⟨high, low, Option.isSome_of_eq_some hhigh, Option.isSome_of_eq_some hlow,
      List.prefix_append ['%', high, low] cs |>.isInfix⟩ h
  | case3 high low cs hdigits ih =>
    exact congrArg (utf8Bytes '%' ++ ·) (ih fun hrest => h hrest.cons)
  | case4 c cs hother ih => rw [ih fun hrest => h hrest.cons, List.flatMap_cons]

def isAsciiByte (b : UInt8) : Bool := b.toNat < 0x80

theorem utf8Bytes_wide {c : Char} (h : 0x80 ≤ c.toNat) :
    ∀ b ∈ utf8Bytes c, isAsciiByte b = false := by
  intro b hb
  have hbyte : 0x80 ≤ b.toNat := by
    have hval : c.val.toNat = c.toNat := rfl
    unfold utf8Bytes String.utf8EncodeChar at hb
    simp only [hval] at hb
    split at hb
    · omega
    · split at hb
      · simp only [List.mem_cons, List.not_mem_nil, or_false] at hb
        rcases hb with rfl | rfl <;> rw [UInt8.toNat_ofNat'] <;> omega
      · split at hb
        · simp only [List.mem_cons, List.not_mem_nil, or_false] at hb
          rcases hb with rfl | rfl | rfl <;> rw [UInt8.toNat_ofNat'] <;> omega
        · simp only [List.mem_cons, List.not_mem_nil, or_false] at hb
          rcases hb with rfl | rfl | rfl | rfl <;> rw [UInt8.toNat_ofNat'] <;> omega
  simpa [isAsciiByte] using hbyte

theorem countP_utf8Bytes (c : Char) :
    (utf8Bytes c).countP isAsciiByte = if c.toNat < 0x80 then 1 else 0 := by
  by_cases h : c.toNat < 0x80
  · rw [if_pos h, utf8Bytes_eq_singleton h]
    have hbyte : isAsciiByte (UInt8.ofNat c.toNat) = true := by
      rw [isAsciiByte, UInt8.toNat_ofNat', Nat.mod_eq_of_lt (by omega)]
      exact decide_eq_true h
    rw [List.countP_singleton, if_pos hbyte]
  · rw [if_neg h, List.countP_eq_zero]
    exact fun b hb => Bool.not_eq_true _ ▸ utf8Bytes_wide (Nat.le_of_not_lt h) b hb

theorem toNat_lt_of_hexDigit? {c : Char} {d : Nat} (h : hexDigit? c = some d) :
    c.toNat < 0x80 := by
  have hle {top : Char} (htop : top.toNat < 0x80) (hc : c ≤ top) : c.toNat < 0x80 :=
    Nat.lt_of_le_of_lt (UInt32.le_iff_toNat_le.mp hc) htop
  simp only [Unicode.hexDigit?, Bool.and_eq_true, decide_eq_true_eq] at h
  split at h
  · rename_i hdigit
    exact hle (by decide) hdigit.2
  · split at h
    · rename_i hletter
      exact hle (by decide) hletter.2
    · split at h
      · rename_i hletter
        exact hle (by decide) hletter.2
      · cases h

/-- Decoding leaves no more characters of one byte, and fewer if it takes three for one. -/
theorem countP_percentDecode (cs : List Char) :
    (percentDecode cs).countP isAsciiByte ≤ cs.countP (·.toNat < 0x80) ∧
      (HasTriplet cs → (percentDecode cs).countP isAsciiByte < cs.countP (·.toNat < 0x80)) := by
  fun_induction percentDecode cs with
  | case1 =>
    refine ⟨Nat.le_refl _, fun h => ?_⟩
    obtain ⟨_, _, _, _, hinfix⟩ := h
    exact absurd (List.infix_nil.mp hinfix) (by simp)
  | case2 high low cs h l hlow hhigh ih =>
    have hhigh := toNat_lt_of_hexDigit? hhigh
    have hlow := toNat_lt_of_hexDigit? hlow
    have hbyte := List.countP_le_length (p := isAsciiByte) (l := [UInt8.ofNat (16 * h + l)])
    have hsign : '%'.toNat < 0x80 := by decide
    simp only [List.countP_cons, List.countP_nil, List.length_singleton] at hbyte
    simp only [List.countP_cons, hhigh, hlow, hsign, decide_true, if_true]
    omega
  | case3 high low cs hdigits ih =>
    have hrest (h : HasTriplet ('%' :: high :: low :: cs)) : HasTriplet (high :: low :: cs) := by
      rcases h.of_cons with ⟨first, second, rest, _, heq, hfirst, hsecond⟩ | hrest
      · obtain ⟨rfl, htail⟩ := List.cons.inj heq
        obtain ⟨rfl, _⟩ := List.cons.inj htail
        obtain ⟨h, hh⟩ := Option.isSome_iff_exists.mp hfirst
        obtain ⟨l, hl⟩ := Option.isSome_iff_exists.mp hsecond
        exact (hdigits h l hh hl).elim
      · exact hrest
    rw [List.countP_append, countP_utf8Bytes, List.countP_cons (a := '%')]
    simp only [decide_eq_true_eq]
    exact ⟨by omega, fun h => by have := ih.2 (hrest h); omega⟩
  | case4 c cs hother ih =>
    have hrest (h : HasTriplet (c :: cs)) : HasTriplet cs := by
      rcases h.of_cons with ⟨high, low, rest, hsign, heq, _⟩ | hrest
      · exact (hother high low rest hsign heq).elim
      · exact hrest
    rw [List.countP_append, countP_utf8Bytes, List.countP_cons]
    simp only [decide_eq_true_eq]
    exact ⟨by omega, fun h => by have := ih.2 (hrest h); omega⟩

end RequestTracing.Text
