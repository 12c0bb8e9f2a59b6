import RequestTracing.Http.RequestUrl
import RequestTracing.Proofs.Text.PercentDecoding
/-!
The path in the URL of a request. It stands for the bytes that the characters of the path are taken
for, which are those that the path itself stands for just if nothing in it is encoded and none of
its characters is between one byte and two.
-/
namespace RequestTracing.Http

/-- Whether a character has one byte as a code point and two in UTF-8. -/
def isHighByteChar (c : Char) : Bool := 0x80 ≤ c.toNat && c.toNat < 0x100

theorem of_isPathByte {b : UInt8} (h : isPathByte b = true) : b.toNat < 0x80 ∧ b ≠ 0x25 := by
  have hall : ∀ n < 256, isPathByte (UInt8.ofNat n) = true →
      n < 0x80 ∧ UInt8.ofNat n ≠ 0x25 := by
    decide +kernel
  have hbyte := hall b.toNat b.toNat_lt
  rw [UInt8.ofNat_toNat] at hbyte
  exact hbyte h

theorem percentDecode_quotePath (path : List Char) :
    Text.percentDecode (quotePath path) = pathBytes path :=
  Text.percentDecode_percentEncode (fun _ hb => of_isPathByte hb) (pathBytes path)

theorem quotePath_slash (path : List Char) : quotePath ('/' :: path) = '/' :: quotePath path := rfl

theorem mem_quotePath {path : List Char} {c : Char} (h : c ∈ quotePath path) :
    c ≠ '?' ∧ c ≠ '#' := by
  have hall : ∀ n < 256, (if isPathByte (UInt8.ofNat n) then [Char.ofNat n]
      else Text.percentTriplet (UInt8.ofNat n)).all (fun c => c ≠ '?' && c ≠ '#') = true := by
    decide +kernel
  obtain ⟨b, _, hb⟩ := List.mem_flatMap.mp h
  have hbyte := hall b.toNat b.toNat_lt
  rw [UInt8.ofNat_toNat] at hbyte
  simpa using List.all_eq_true.mp hbyte c hb

theorem pathBytes_cons (c : Char) (path : List Char) :
    pathBytes (c :: path) =
      (if c.toNat < 0x100 then [UInt8.ofNat c.toNat] else Text.utf8Bytes c) ++ pathBytes path :=
  List.flatMap_cons

theorem countP_pathBytes (path : List Char) :
    (pathBytes path).countP Text.isAsciiByte = path.countP (·.toNat < 0x80) := by
  induction path with
  | nil => rfl
  | cons c path ih =>
    rw [pathBytes_cons, List.countP_append, ih, List.countP_cons, Nat.add_comm]
    congr 1
    by_cases hbyte : c.toNat < 0x100
    · have hnat : (UInt8.ofNat c.toNat).toNat = c.toNat := by
        rw [UInt8.toNat_ofNat', Nat.mod_eq_of_lt hbyte]
      rw [if_pos hbyte, List.countP_singleton, Text.isAsciiByte, hnat]
    · rw [if_neg hbyte, Text.countP_utf8Bytes]
      simp

theorem utf8Bytes_of_isHighByteChar {c : Char} (h : isHighByteChar c = true) :
    (Text.utf8Bytes c).length = 2 := by
  have hval : c.val.toNat = c.toNat := rfl
  simp only [isHighByteChar, Bool.and_eq_true, decide_eq_true_eq] at h
  unfold Text.utf8Bytes String.utf8EncodeChar
  simp only [hval]
  rw [if_neg (by omega), if_pos (by omega)]
  rfl

theorem charBytes_eq_utf8Bytes {c : Char} (h : isHighByteChar c = false) :
    (if c.toNat < 0x100 then [UInt8.ofNat c.toNat] else Text.utf8Bytes c) = Text.utf8Bytes c := by
  split
  · rename_i hbyte
    simp only [isHighByteChar, Bool.and_eq_false_iff, decide_eq_false_iff_not] at h
    rw [Text.utf8Bytes_eq_singleton (by omega)]
  · rfl

/-- Each character that is one byte as a code point and two in UTF-8 is taken for a byte too few. -/
theorem length_pathBytes (path : List Char) :
    (pathBytes path).length + path.countP isHighByteChar =
      (path.flatMap Text.utf8Bytes).length := by
  induction path with
  | nil => rfl
  | cons c path ih =>
    rw [pathBytes_cons, List.length_append, List.countP_cons, List.flatMap_cons, List.length_append]
    by_cases hhigh : isHighByteChar c = true
    · have hbyte : c.toNat < 0x100 := by
        simp only [isHighByteChar, Bool.and_eq_true, decide_eq_true_eq] at hhigh
        exact hhigh.2
      rw [utf8Bytes_of_isHighByteChar hhigh, if_pos hbyte, if_pos hhigh, List.length_singleton]
      omega
    · rw [charBytes_eq_utf8Bytes (Bool.eq_false_iff.mpr hhigh), if_neg hhigh]
      omega

/-- A path is taken for what it stands for just if nothing in it is encoded and each of its
characters is one byte or wider than a byte. -/
theorem pathBytes_eq_percentDecode_iff (path : List Char) :
    pathBytes path = Text.percentDecode path ↔
      ¬Text.HasTriplet path ∧ ∀ c ∈ path, isHighByteChar c = false := by
  have hlengths := length_pathBytes path
  have hcount := countP_pathBytes path
  constructor
  · intro heq
    have hplain : ¬Text.HasTriplet path := by
      intro htriplet
      have hless := (Text.countP_percentDecode path).2 htriplet
      rw [← heq, hcount] at hless
      exact Nat.lt_irrefl _ hless
    rw [heq, Text.percentDecode_eq_flatMap hplain, Nat.add_eq_left, List.countP_eq_zero] at hlengths
    exact ⟨hplain, fun c hc => Bool.eq_false_iff.mpr (hlengths c hc)⟩
  · rintro ⟨hplain, hchars⟩
    rw [Text.percentDecode_eq_flatMap hplain]
    unfold pathBytes
    rw [List.flatMap_def, List.flatMap_def]
    exact congrArg List.flatten
      (List.map_congr_left fun c hc => charBytes_eq_utf8Bytes (hchars c hc))

end RequestTracing.Http
