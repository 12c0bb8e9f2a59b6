import RequestTracing.Text.Percent
/-!
The order of texts is that of their bytes in UTF-8.
-/
namespace RequestTracing.Text

def bytes (s : String) : List UInt8 :=
  s.toList.flatMap utf8Bytes

/-- Numbers are in the order of their digits to the base 64, the first of which may be greater. -/
theorem digits_lt {m n : Nat} (h : m < n) :
    m / 262144 < n / 262144 ∨ m / 262144 = n / 262144 ∧
      (m / 4096 % 64 < n / 4096 % 64 ∨ m / 4096 % 64 = n / 4096 % 64 ∧
        (m / 64 % 64 < n / 64 % 64 ∨ m / 64 % 64 = n / 64 % 64 ∧ m % 64 < n % 64)) := by
  have hvalue (k : Nat) :
      k = 262144 * (k / 262144) + 4096 * (k / 4096 % 64) + 64 * (k / 64 % 64) + k % 64 := by
    omega
  have hless (k : Nat) : k / 4096 % 64 < 64 ∧ k / 64 % 64 < 64 ∧ k % 64 < 64 := by omega
  have hm := hvalue m
  have hn := hvalue n
  have hlessm := hless m
  have hlessn := hless n
  generalize m / 262144 = m₃, m / 4096 % 64 = m₂, m / 64 % 64 = m₁, m % 64 = m₀ at *
  generalize n / 262144 = n₃, n / 4096 % 64 = n₂, n / 64 % 64 = n₁, n % 64 = n₀ at *
  omega

theorem utf8Bytes_append_lt {c d : Char} (h : c < d) (cs ds : List UInt8) :
    utf8Bytes c ++ cs < utf8Bytes d ++ ds := by
  have hlt : c.val.toNat < d.val.toNat := h
  have hvalid (c : Char) : c.val.toNat < 0x110000 := by
    have hc := c.valid
    unfold UInt32.isValidChar Nat.isValidChar at hc
    omega
  have hc := hvalid c
  have hd := hvalid d
  have hdigits := digits_lt hlt
  have hfirst (k : Nat) (hk : k < 0x110000) :
      (k / 262144 % 8 + 240) % 2 ^ 8 = k / 262144 + 240 := by
    omega
  have hrest (k : Nat) : (k % 64 + 128) % 2 ^ 8 = k % 64 + 128 := by omega
  unfold utf8Bytes String.utf8EncodeChar
  generalize c.val.toNat = m at *
  generalize d.val.toNat = n at *
  dsimp only
  -- The first byte is greater if there are more of them; as many bytes compare like digits.
  repeat' split
  all_goals
    simp only [List.cons_append, List.nil_append, List.cons_lt_cons_iff, UInt8.lt_iff_toNat_lt,
      ← UInt8.toNat_inj, UInt8.toNat_ofNat', hfirst _ hc, hfirst _ hd, hrest,
      Nat.add_lt_add_iff_right, Nat.add_right_cancel_iff]
    omega

theorem flatMap_utf8Bytes_lt {cs ds : List Char} (h : cs < ds) :
    cs.flatMap utf8Bytes < ds.flatMap utf8Bytes := by
  induction cs generalizing ds with
  | nil =>
    cases ds with
    | nil => exact absurd h (List.lt_irrefl [])
    | cons d ds =>
      obtain ⟨b, bs, hbytes⟩ := List.exists_cons_of_ne_nil (String.utf8EncodeChar_ne_nil (c := d))
      rw [List.flatMap_nil, List.flatMap_cons, utf8Bytes, hbytes]
      exact List.nil_lt_cons b _
  | cons c cs ih =>
    cases ds with
    | nil => exact absurd h (List.not_lt_nil _)
    | cons d ds =>
      rw [List.flatMap_cons, List.flatMap_cons]
      rcases List.cons_lt_cons_iff.mp h with hlt | ⟨rfl, hrest⟩
      · exact utf8Bytes_append_lt hlt _ _
      · exact List.append_left_lt (ih hrest)

theorem bytes_lt_iff {s t : String} : bytes s < bytes t ↔ s < t := by
  constructor
  · intro h
    by_cases hlt : s < t
    · exact hlt
    · exfalso
      by_cases hgt : t < s
      · exact List.lt_asymm h (flatMap_utf8Bytes_lt hgt)
      · rw [String.le_antisymm (String.not_lt.mp hgt) (String.not_lt.mp hlt)] at h
        exact List.lt_irrefl _ h
  · intro h
    exact flatMap_utf8Bytes_lt h

theorem bytes_le_iff {s t : String} : bytes s ≤ bytes t ↔ s ≤ t := by
  rw [← List.not_lt, ← String.not_lt, bytes_lt_iff]

end RequestTracing.Text
