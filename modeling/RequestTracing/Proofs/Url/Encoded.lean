import RequestTracing.Proofs.Text.PercentDecoding
import RequestTracing.Url.Path
/-!
Percent encoding of the parts of URLs. Only characters that stand for themselves are written, those
of triplets among them; so what is encoded once stays as it is when it is encoded again.
-/
namespace RequestTracing.Url

def tripletChars : List Char :=
  '%' :: (List.range 16).map Text.upperHexDigit

theorem mem_tripletChars {b : UInt8} {c : Char} (h : c ∈ Text.percentTriplet b) :
    c ∈ tripletChars := by
  have hdigit {n : Nat} (hn : n < 16) : Text.upperHexDigit n ∈ tripletChars :=
    List.mem_cons_of_mem _ (List.mem_map_of_mem (List.mem_range.mpr hn))
  simp only [Text.percentTriplet, List.mem_cons, List.not_mem_nil, or_false] at h
  rcases h with rfl | rfl | rfl
  · exact List.mem_cons_self
  · exact hdigit (Nat.div_lt_of_lt_mul b.toNat_lt)
  · exact hdigit (Nat.mod_lt _ (by decide))

def IsWritten (encode : UInt8 → Bool) (c : Char) : Prop :=
  c.toNat < 0x80 ∧ encode (UInt8.ofNat c.toNat) = false

instance (encode : UInt8 → Bool) (c : Char) : Decidable (IsWritten encode c) :=
  inferInstanceAs (Decidable (_ ∧ _))

/-- Whether a class of bytes may be encoded: all that are not ASCII are in it, but none that a
triplet is written with. -/
structure IsEncoding (encode : UInt8 → Bool) : Prop where
  wide : ∀ n < 256, 0x80 ≤ n → encode (UInt8.ofNat n) = true
  triplets : ∀ c ∈ tripletChars, IsWritten encode c

theorem isEncoding_control : IsEncoding isControlByte :=
  ⟨by decide +kernel, Text.forall_mem_of_all (by decide)⟩

theorem isEncoding_fragment : IsEncoding isFragmentEncoded :=
  ⟨by decide +kernel, Text.forall_mem_of_all (by decide)⟩

theorem isEncoding_path : IsEncoding isPathEncoded :=
  ⟨by decide +kernel, Text.forall_mem_of_all (by decide)⟩

theorem isEncoding_query (special : Bool) : IsEncoding (isQueryEncoded special) := by
  cases special <;> exact ⟨by decide +kernel, Text.forall_mem_of_all (by decide)⟩

section Encoding

variable {encode : UInt8 → Bool}

theorem percentEncodeChars_cons (c : Char) (cs : List Char) :
    (percentEncodeChars encode (c :: cs)).toList =
      Text.percentEncode (!encode ·) (Text.utf8Bytes c) ++
        (percentEncodeChars encode cs).toList := by
  simp [percentEncodeChars, Text.percentEncode]

theorem percentEncode_utf8Bytes (hencode : IsEncoding encode) (c : Char) :
    IsWritten encode c ∧ Text.percentEncode (!encode ·) (Text.utf8Bytes c) = [c] ∨
      ¬IsWritten encode c ∧ Text.percentEncode (!encode ·) (Text.utf8Bytes c) =
        (Text.utf8Bytes c).flatMap Text.percentTriplet := by
  by_cases hascii : c.toNat < 0x80
  · have hnat : (UInt8.ofNat c.toNat).toNat = c.toNat :=
      Nat.mod_eq_of_lt (Nat.lt_trans hascii (by decide))
    rw [Text.utf8Bytes_eq_singleton hascii]
    by_cases hclass : encode (UInt8.ofNat c.toNat) = false
    · left
      refine ⟨⟨hascii, hclass⟩, ?_⟩
      simp only [Text.percentEncode, List.flatMap_singleton, hclass, Bool.not_false, if_true,
        hnat, Char.ofNat_toNat]
    · right
      refine ⟨fun h => hclass h.2, ?_⟩
      simp only [Text.percentEncode, List.flatMap_singleton, Bool.not_eq_false _ ▸ hclass]
      rfl
  · right
    refine ⟨fun h => hascii h.1, ?_⟩
    unfold Text.percentEncode
    refine congrArg List.flatten (List.map_congr_left fun b hb => ?_)
    have hwide : 0x80 ≤ b.toNat := by
      simpa [Text.isAsciiByte] using Text.utf8Bytes_wide (Nat.le_of_not_lt hascii) b hb
    have hclass : encode b = true := by
      simpa using hencode.wide b.toNat b.toNat_lt hwide
    simp only [hclass, Bool.not_true, Bool.false_eq_true, if_false]

/-- What is written stands for itself; it is a character of the text or one of a triplet. -/
theorem of_mem_percentEncodeChars (hencode : IsEncoding encode) {cs : List Char} {c : Char}
    (h : c ∈ (percentEncodeChars encode cs).toList) :
    IsWritten encode c ∧ (c ∈ cs ∨ c ∈ tripletChars) := by
  induction cs with
  | nil => simp [percentEncodeChars, Text.percentEncode] at h
  | cons d cs ih =>
    rw [percentEncodeChars_cons, List.mem_append] at h
    rcases h with h | h
    · obtain ⟨hwritten, hd⟩ | ⟨-, hd⟩ := percentEncode_utf8Bytes hencode d
      · rw [hd, List.mem_singleton] at h
        exact ⟨h ▸ hwritten, .inl (h ▸ List.mem_cons_self)⟩
      · rw [hd, List.mem_flatMap] at h
        obtain ⟨b, -, hc⟩ := h
        have hc := mem_tripletChars hc
        exact ⟨hencode.triplets c hc, .inr hc⟩
    · exact (ih h).imp_right (Or.imp_left (List.mem_cons_of_mem d))

theorem percentEncodeChars_eq_self (hencode : IsEncoding encode) {cs : List Char}
    (h : ∀ c ∈ cs, IsWritten encode c) : percentEncodeChars encode cs = String.ofList cs := by
  refine String.toList_inj.mp ?_
  induction cs with
  | nil => rfl
  | cons c cs ih =>
    obtain ⟨hc, hrest⟩ := List.forall_mem_cons.mp h
    obtain ⟨-, hself⟩ | ⟨hnot, -⟩ := percentEncode_utf8Bytes hencode c
    · rw [percentEncodeChars_cons, ih hrest, hself]
      simp
    · exact absurd hc hnot

theorem percentEncodeChars_toList (hencode : IsEncoding encode) (cs : List Char) :
    percentEncodeChars encode (percentEncodeChars encode cs).toList =
      percentEncodeChars encode cs := by
  rw [percentEncodeChars_eq_self hencode fun c hc => (of_mem_percentEncodeChars hencode hc).1,
    String.ofList_toList]

theorem percentEncodeChars_ne_empty (hencode : IsEncoding encode) {cs : List Char}
    (h : cs ≠ []) : percentEncodeChars encode cs ≠ "" := by
  obtain ⟨c, cs, rfl⟩ := List.exists_cons_of_ne_nil h
  have hbytes : Text.utf8Bytes c ≠ [] :=
    List.ne_nil_of_length_pos (String.length_utf8EncodeChar c ▸ c.utf8Size_pos)
  obtain ⟨b, bytes, hbytes⟩ := List.exists_cons_of_ne_nil hbytes
  intro hempty
  have hlist := congrArg String.toList hempty
  rw [percentEncodeChars_cons] at hlist
  obtain ⟨-, hc⟩ | ⟨-, hc⟩ := percentEncode_utf8Bytes hencode c
  · simp [hc] at hlist
  · rw [hc, hbytes] at hlist
    simp [Text.percentTriplet] at hlist

end Encoding

end RequestTracing.Url
