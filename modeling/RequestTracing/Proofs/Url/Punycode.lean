import Mathlib.Tactic.Ring
import RequestTracing.Proofs.Text.PercentDecoding
import RequestTracing.Url.Punycode
/-!
Texts written with letters, digits and hyphens are read back. Writing runs through pairs of a code
point and a place, and reading follows it: after each number the two stand at the same pair, and what
is read is what the text holds up to that pair.
-/
namespace RequestTracing.Url.Punycode

/-! ## Digits and numbers -/

theorem threshold_le (bias index : Nat) : threshold bias index ≤ 26 := by
  unfold threshold
  omega

def IsDigit (c : Char) : Prop := ∃ d < 36, c = digit d

theorem digit?_digit {d : Nat} (h : d < 36) : digit? (digit d) = some d := by
  have hall : ∀ e ∈ List.range 36, digit? (digit e) = some e := by decide
  exact hall d (List.mem_range.mpr h)

theorem ne_of_isDigit {c : Char} (h : IsDigit c) : c ≠ '-' := by
  obtain ⟨d, hd, rfl⟩ := h
  have hall : ∀ e ∈ List.range 36, digit e ≠ '-' := by decide
  exact hall d (List.mem_range.mpr hd)

theorem isDigit_of_mem_writeNumber {bias index n : Nat} {c : Char}
    (h : c ∈ writeNumber bias index n) : IsDigit c := by
  induction n using Nat.strongRecOn generalizing index with
  | ind n ih =>
    have hone := one_le_threshold bias index
    have htop := threshold_le bias index
    rw [writeNumber] at h
    split at h
    · rename_i hlt
      exact ⟨n, by omega, List.mem_singleton.mp h⟩
    · rename_i hle
      rcases List.mem_cons.mp h with rfl | h
      · have hmod := Nat.mod_lt (n - threshold bias index)
          (show 0 < 36 - threshold bias index by omega)
        exact ⟨_, by omega, rfl⟩
      · have hdiv := Nat.div_le_self (n - threshold bias index) (36 - threshold bias index)
        exact ih _ (by omega) h

theorem step?_digit {r : Reading} {d : Nat} (hd : d < 36)
    (hbound : r.number + d * r.weight < numberBound) :
    r.step? (digit d) =
      if d < threshold r.bias r.index then { r with number := r.number + d * r.weight }.insert?
      else some
        { r with
          number := r.number + d * r.weight
          weight := r.weight * (36 - threshold r.bias r.index)
          index := r.index + 1 } := by
  rw [Reading.step?, digit?_digit hd, Option.bind_eq_bind, Option.bind_some]
  exact if_neg (Nat.not_le.mpr hbound)

/-- The first digit of a number and the later ones, which weigh more, make up the number. -/
theorem weigh_digits {n t : Nat} (h : t ≤ n) (span weight : Nat) :
    (t + (n - t) % span) * weight + (n - t) / span * (weight * span) = n * weight := by
  calc (t + (n - t) % span) * weight + (n - t) / span * (weight * span)
      = (t + ((n - t) % span + span * ((n - t) / span))) * weight := by ring
    _ = n * weight := by rw [Nat.mod_add_div, Nat.add_sub_cancel' h]

/-- Reading the digits of a number adds the number, at its weight, and inserts a character. -/
theorem foldlM_writeNumber {n : Nat} {r : Reading}
    (hbound : r.number + n * r.weight < numberBound) :
    (writeNumber r.bias r.index n).foldlM Reading.step? r =
      { r with number := r.number + n * r.weight }.insert? := by
  induction n using Nat.strongRecOn generalizing r with
  | ind n ih =>
    have hone := one_le_threshold r.bias r.index
    have htop := threshold_le r.bias r.index
    rw [writeNumber]
    split
    · rename_i hlt
      rw [List.foldlM_cons, step?_digit (by omega) hbound, if_pos hlt]
      exact bind_pure _
    · rename_i hle
      have hsplit := weigh_digits (Nat.not_lt.mp hle) (36 - threshold r.bias r.index) r.weight
      have hlow := Nat.mod_lt (n - threshold r.bias r.index)
        (show 0 < 36 - threshold r.bias r.index by omega)
      have hhigh := Nat.div_le_self (n - threshold r.bias r.index) (36 - threshold r.bias r.index)
      rw [List.foldlM_cons, step?_digit (by omega) (by omega), if_neg (by omega),
        Option.bind_eq_bind, Option.bind_some]
      refine (ih _ (by omega) (by dsimp only; omega)).trans ?_
      dsimp only
      rw [Nat.add_assoc, hsplit]
      rfl

/-! ## Insertions -/

/-- The number says how many pairs lie between the last insertion and the next one: that of `c`
behind `front`. -/
theorem insert?_eq {r : Reading} {c : Char} {front back : List Char}
    (htext : r.text = front ++ back) (hcode : r.codePoint ≤ c.toNat)
    (hpairs : r.codePoint * (r.text.length + 1) + r.place + r.number =
      c.toNat * (r.text.length + 1) + front.length) :
    r.insert? = some {
      text := front ++ c :: back
      codePoint := c.toNat
      place := front.length + 1
      bias := nextBias r.number (r.text.length + 1) r.isFirst
      isFirst := false } := by
  have hfront : front.length < r.text.length + 1 := by
    rw [htext, List.length_append]
    omega
  have hpassed : r.place + r.number =
      front.length + (r.text.length + 1) * (c.toNat - r.codePoint) := by
    obtain ⟨gap, hgap⟩ := Nat.exists_eq_add_of_le hcode
    rw [hgap, Nat.add_mul] at hpairs
    rw [hgap, Nat.add_sub_cancel_left, Nat.mul_comm]
    omega
  have hcodePoint : r.codePoint + (r.place + r.number) / (r.text.length + 1) = c.toNat := by
    rw [hpassed, Nat.add_mul_div_left _ _ (Nat.succ_pos _), Nat.div_eq_of_lt hfront]
    omega
  have hplace : (r.place + r.number) % (r.text.length + 1) = front.length := by
    rw [hpassed, Nat.add_mul_mod_self_left, Nat.mod_eq_of_lt hfront]
  rw [Reading.insert?]
  simp only [hcodePoint, hplace]
  have hvalid : c.toNat.isValidChar := c.valid
  rw [if_pos hvalid, htext, List.take_left, List.drop_left, Char.ofNat_toNat]

/-- What is there of a text when all characters below a code point are, and that one in the first
part. -/
def present (codePoint : Nat) (before after : List Char) : List Char :=
  before.filter (·.toNat ≤ codePoint) ++ after.filter (·.toNat < codePoint)

/-- Reading what was written so far leads to `r`. Both hold the same text, and the writing is at the
given code point behind `before`, as many pairs after the reading as it passed over. -/
structure Follows (basic : List Char) (codePoint : Nat) (before after : List Char) (w : Writing)
    (r : Reading) : Prop where
  read : w.digits.foldlM Reading.step? { text := basic } = some r
  digits : ∀ c ∈ w.digits, IsDigit c
  text : r.text = present codePoint before after
  count : w.count = r.text.length
  pairs : r.codePoint * (r.text.length + 1) + r.place + w.delta =
    codePoint * (r.text.length + 1) + (before.filter (·.toNat ≤ codePoint)).length
  bias : r.bias = w.bias
  isFirst : r.isFirst = w.isFirst
  between : r.number = 0 ∧ r.weight = 1 ∧ r.index = 0
  codePoint_le : 0x80 ≤ r.codePoint ∧ r.codePoint ≤ codePoint

variable {basic before after : List Char} {codePoint : Nat} {w : Writing} {r : Reading} {c : Char}

theorem present_length_le (codePoint : Nat) (before after : List Char) :
    (present codePoint before after).length ≤ before.length + after.length := by
  rw [present, List.length_append]
  exact Nat.add_le_add (List.length_filter_le ..) (List.length_filter_le ..)

/-- In short texts all pairs up to the last code point are fewer than the bound. -/
theorem Follows.delta_lt (h : Follows basic c.toNat before (c :: after) w r)
    (hbound : (before.length + (c :: after).length + 1) * (0x10FFFF - 0x80) < numberBound) :
    w.delta < numberBound := by
  have hpairs := h.pairs
  have htext : r.text.length ≤ before.length + after.length := by
    rw [h.text, present, List.filter_cons_of_neg (by simp)]
    exact present_length_le c.toNat before after
  have hfront : (before.filter (·.toNat ≤ c.toNat)).length ≤ r.text.length := by
    rw [h.text, present, List.length_append]
    exact Nat.le_add_right ..
  have hcode : c.toNat ≤ 0x10FFFF := by
    have hvalid : c.toNat.isValidChar := c.valid
    unfold Nat.isValidChar at hvalid
    omega
  have hlow := Nat.mul_le_mul_right (r.text.length + 1) h.codePoint_le.1
  have hhigh := Nat.mul_le_mul_right (r.text.length + 1) hcode
  rw [List.length_cons] at hbound
  unfold numberBound at hbound ⊢
  omega

theorem Follows.foldlM_number (h : Follows basic c.toNat before (c :: after) w r)
    (hbound : (before.length + (c :: after).length + 1) * (0x10FFFF - 0x80) < numberBound) :
    (writeNumber w.bias 0 w.delta).foldlM Reading.step? r = some {
      text := present c.toNat (before ++ [c]) after
      codePoint := c.toNat
      place := ((before ++ [c]).filter (·.toNat ≤ c.toNat)).length
      bias := nextBias w.delta (r.text.length + 1) r.isFirst
      isFirst := false } := by
  have hself : (before ++ [c]).filter (·.toNat ≤ c.toNat) =
      before.filter (·.toNat ≤ c.toNat) ++ [c] := by
    rw [List.filter_append, List.filter_cons_of_pos (by simp), List.filter_nil]
  have htext : r.text =
      before.filter (·.toNat ≤ c.toNat) ++ after.filter (·.toNat < c.toNat) := by
    rw [h.text, present, List.filter_cons_of_neg (by simp)]
  obtain ⟨hzero, hweight, hindex⟩ := h.between
  have hnumber : r.number + w.delta * r.weight = w.delta := by
    rw [hzero, hweight, Nat.mul_one, Nat.zero_add]
  have hdigits := (foldlM_writeNumber (hnumber.symm ▸ h.delta_lt hbound)).trans
    (insert?_eq htext h.codePoint_le.2 (hnumber.symm ▸ h.pairs))
  rw [hindex, h.bias] at hdigits
  simp only [hnumber] at hdigits
  rw [hdigits, present, hself, List.append_assoc, List.length_append]
  rfl

theorem Follows.foldlM_append (h : Follows basic codePoint before after w r)
    (later : List Char) : (w.digits ++ later).foldlM Reading.step? { text := basic } =
      later.foldlM Reading.step? r := by
  rw [List.foldlM_append, h.read]
  rfl

theorem Follows.insert (h : Follows basic c.toNat before (c :: after) w r)
    (hbound : (before.length + (c :: after).length + 1) * (0x10FFFF - 0x80) < numberBound) :
    ∃ r', Follows basic c.toNat (before ++ [c]) after (w.pass c.toNat c) r' := by
  have hread := (h.foldlM_append (writeNumber w.bias 0 w.delta)).trans (h.foldlM_number hbound)
  rw [Writing.pass, if_neg (Nat.lt_irrefl _), if_pos rfl]
  refine ⟨_, {
    read := hread
    digits := ?digits
    text := rfl
    count := ?count
    pairs := rfl
    bias := ?bias
    isFirst := rfl
    between := ⟨rfl, rfl, rfl⟩
    codePoint_le := ⟨h.codePoint_le.1.trans h.codePoint_le.2, Nat.le_refl _⟩ }⟩
  case digits =>
    intro d hd
    rcases List.mem_append.mp hd with hd | hd
    · exact h.digits d hd
    · exact isDigit_of_mem_writeNumber hd
  case count =>
    rw [h.count, h.text, present, present]
    simp
    omega
  case bias => rw [h.count, h.isFirst]

theorem Follows.pass (h : Follows basic codePoint before (c :: after) w r)
    (hbound : (before.length + (c :: after).length + 1) * (0x10FFFF - 0x80) < numberBound) :
    ∃ r', Follows basic codePoint (before ++ [c]) after (w.pass codePoint c) r' := by
  by_cases heq : c.toNat = codePoint
  · subst heq
    exact h.insert hbound
  by_cases hlt : c.toNat < codePoint
  · have hbefore : (before ++ [c]).filter (·.toNat ≤ codePoint) =
        before.filter (·.toNat ≤ codePoint) ++ [c] := by
      rw [List.filter_append, List.filter_cons_of_pos (by simpa using hlt.le), List.filter_nil]
    refine ⟨r, ?_⟩
    rw [Writing.pass, if_pos hlt]
    refine { h with text := ?_, pairs := ?_ }
    · rw [h.text, present, present, hbefore, List.filter_cons_of_pos (by simpa using hlt),
        List.append_assoc, List.singleton_append]
    · rw [hbefore, List.length_append, List.length_singleton]
      dsimp only
      have hpairs := h.pairs
      omega
  · have hbefore : (before ++ [c]).filter (·.toNat ≤ codePoint) =
        before.filter (·.toNat ≤ codePoint) := by
      rw [List.filter_append, List.filter_cons_of_neg (by simp; omega), List.filter_nil,
        List.append_nil]
    refine ⟨r, ?_⟩
    rw [Writing.pass, if_neg hlt, if_neg heq]
    refine { h with text := ?_, pairs := ?_ }
    · rw [h.text, present, present, hbefore, List.filter_cons_of_neg (by simpa using hlt)]
    · rw [hbefore]
      exact h.pairs

theorem Follows.foldl_pass (h : Follows basic codePoint before after w r)
    (hbound : (before.length + after.length + 1) * (0x10FFFF - 0x80) < numberBound) :
    ∃ r', Follows basic codePoint (before ++ after) [] (after.foldl (Writing.pass codePoint) w)
      r' := by
  induction after generalizing before w r with
  | nil => exact ⟨r, (List.append_nil before).symm ▸ h⟩
  | cons c after ih =>
    obtain ⟨r, h⟩ := h.pass hbound
    have hlength : (before ++ [c]).length + after.length = before.length + (c :: after).length := by
      rw [List.length_append, List.length_singleton, List.length_cons]
      omega
    have hall := ih h (hlength ▸ hbound)
    rwa [List.append_assoc] at hall

/-- Behind the last place of a code point stands the first place of the next one. -/
theorem Follows.next {cs : List Char} (h : Follows basic codePoint cs [] w r) :
    Follows basic (codePoint + 1) [] cs { w with delta := w.delta + 1 } r := by
  have hpresent : cs.filter (·.toNat < codePoint + 1) = cs.filter (·.toNat ≤ codePoint) := by
    simp only [Nat.lt_succ_iff]
  have htext : r.text = cs.filter (·.toNat ≤ codePoint) := by
    rw [h.text, present, List.filter_nil, List.append_nil]
  have hpairs := h.pairs
  refine { h with text := ?_, pairs := ?_, codePoint_le := ?_ }
  · rw [htext, present, hpresent, List.filter_nil, List.nil_append]
  · rw [← htext] at hpairs
    rw [Nat.succ_mul, List.filter_nil]
    dsimp only [List.length_nil]
    omega
  · exact h.codePoint_le.imp_right Nat.le_succ_of_le

theorem Follows.skip {cs : List Char} {next : Nat} (h : Follows basic next [] cs w r)
    (hle : next ≤ codePoint) (hnone : ∀ c ∈ cs, next ≤ c.toNat → codePoint ≤ c.toNat) :
    Follows basic codePoint [] cs
      { w with delta := w.delta + (codePoint - next) * (w.count + 1) } r := by
  have hpresent : cs.filter (·.toNat < codePoint) = cs.filter (·.toNat < next) := by
    refine List.filter_congr fun c hc => ?_
    have hnone := hnone c hc
    rw [decide_eq_decide]
    omega
  have hpairs := h.pairs
  refine { h with text := ?_, pairs := ?_, codePoint_le := ?_ }
  · rw [h.text, present, present, hpresent, List.filter_nil, List.filter_nil]
  · obtain ⟨gap, rfl⟩ := Nat.exists_eq_add_of_le hle
    rw [List.filter_nil, List.length_nil] at hpairs ⊢
    rw [Nat.add_sub_cancel_left, h.count, Nat.add_mul]
    dsimp only
    omega
  · exact h.codePoint_le.imp_right hle.trans'

theorem Follows.insertAll {cs : List Char} {next : Nat} {later : List Nat}
    (h : Follows basic next [] cs w r) (hlater : later.Pairwise (· < ·))
    (hnext : ∀ codePoint ∈ later, next ≤ codePoint)
    (hcs : ∀ c ∈ cs, next ≤ c.toNat → c.toNat ∈ later)
    (hbound : (cs.length + 1) * (0x10FFFF - 0x80) < numberBound) :
    ∃ last r', Follows basic last [] cs (Writing.insert cs next later w) r' ∧
      ∀ c ∈ cs, c.toNat < last := by
  induction later generalizing next w r with
  | nil => exact ⟨next, r, h, fun c hc => Nat.lt_of_not_le fun hle => by simpa using hcs c hc hle⟩
  | cons codePoint later ih =>
    obtain ⟨hle, -⟩ := List.forall_mem_cons.mp hnext
    obtain ⟨hlater, hrest⟩ := List.pairwise_cons.mp hlater
    have hskip := h.skip hle fun c hc hfrom => by
      rcases List.mem_cons.mp (hcs c hc hfrom) with heq | hmem
      · exact heq.ge
      · exact (hlater _ hmem).le
    obtain ⟨r, hpass⟩ := hskip.foldl_pass (by simpa using hbound)
    refine ih hpass.next hrest (fun n hn => hlater n hn) fun c hc hfrom => ?_
    exact (List.mem_cons.mp (hcs c hc (by omega))).resolve_left (by omega)

/-! ## Texts -/

theorem pairwise_eraseDups {ns : List Nat} (h : ns.Pairwise (· ≤ ·)) :
    ns.eraseDups.Pairwise (· < ·) := by
  induction hlength : ns.length using Nat.strongRecOn generalizing ns with
  | ind length ih =>
    cases ns with
    | nil => exact .nil
    | cons n ns =>
      obtain ⟨hle, hrest⟩ := List.pairwise_cons.mp h
      rw [List.eraseDups_cons]
      refine List.pairwise_cons.mpr ⟨fun m hm => ?_, ih _ ?_ (hrest.filter _) rfl⟩
      · obtain ⟨hm, hne⟩ := List.mem_filter.mp (List.mem_eraseDups.mp hm)
        exact Nat.lt_of_le_of_ne (hle m hm) (Ne.symm (by simpa using hne))
      · rw [← hlength, List.length_cons]
        exact Nat.lt_succ_of_le (List.length_filter_le ..)

theorem Follows.start (cs : List Char) :
    Follows (cs.filter (·.toNat < 0x80)) 0x80 [] cs
      { count := (cs.filter (·.toNat < 0x80)).length }
      { text := cs.filter (·.toNat < 0x80) } where
  read := rfl
  digits := fun _ hc => absurd hc List.not_mem_nil
  text := rfl
  count := rfl
  pairs := rfl
  bias := rfl
  isFirst := rfl
  between := ⟨rfl, rfl, rfl⟩
  codePoint_le := ⟨Nat.le_refl _, Nat.le_refl _⟩

/-- The written form of a text is its ASCII characters, a hyphen behind them if there are any, and
digits, which read the text. -/
theorem encode_eq {cs : List Char} (hbound : (cs.length + 1) * (0x10FFFF - 0x80) < numberBound) :
    ∃ digits r, encode cs = cs.filter (·.toNat < 0x80) ++
        (if (cs.filter (·.toNat < 0x80)).isEmpty then [] else ['-']) ++ digits ∧
      (∀ c ∈ digits, IsDigit c) ∧
      digits.foldlM Reading.step? { text := cs.filter (·.toNat < 0x80) } = some r ∧
      r.index = 0 ∧ r.text = cs := by
  have hmem {n : Nat} : n ∈ (((cs.filter (0x80 ≤ ·.toNat)).map Char.toNat).mergeSort
      (· ≤ ·)).eraseDups ↔ ∃ c ∈ cs, 0x80 ≤ c.toNat ∧ c.toNat = n := by
    simp [List.mem_eraseDups, List.mem_mergeSort, and_assoc]
  have hsorted := @List.pairwise_mergeSort _ (fun m n : Nat => decide (m ≤ n))
    (fun a b c hab hbc => decide_eq_true ((of_decide_eq_true hab).trans (of_decide_eq_true hbc)))
    (fun a b => by simpa using Nat.le_total a b) ((cs.filter (0x80 ≤ ·.toNat)).map Char.toNat)
  obtain ⟨last, r, h, hlast⟩ := (Follows.start cs).insertAll
    (pairwise_eraseDups (hsorted.imp of_decide_eq_true))
    (fun n hn => by
      obtain ⟨c, -, hfrom, rfl⟩ := hmem.mp hn
      exact hfrom)
    (fun c hc hfrom => hmem.mpr ⟨c, hc, hfrom, rfl⟩) hbound
  refine ⟨_, r, rfl, h.digits, h.read, h.between.2.2, ?_⟩
  rw [h.text, present, List.filter_nil, List.nil_append]
  exact List.filter_eq_self.mpr fun c hc => decide_eq_true (hlast c hc)

theorem takeWhile_reverse {digits : List Char} (h : '-' ∉ digits) (front : List Char) :
    (digits.reverse ++ front).takeWhile (· ≠ '-') =
      digits.reverse ++ front.takeWhile (· ≠ '-') := by
  refine List.takeWhile_append_of_pos fun c hc => ?_
  have hne : c ≠ '-' := fun heq => h (heq ▸ List.mem_reverse.mp hc)
  simpa using hne

theorem parts_digits {digits : List Char} (h : '-' ∉ digits) : parts digits = ([], digits) := by
  have htake := takeWhile_reverse h []
  rw [List.append_nil, List.takeWhile_nil, List.append_nil] at htake
  rw [parts, htake, List.reverse_reverse, Nat.sub_self, Nat.zero_sub, List.take_zero]

theorem parts_append {basic digits : List Char} (hne : basic ≠ []) (h : '-' ∉ digits) :
    parts (basic ++ '-' :: digits) = (basic, digits) := by
  have htake : (basic ++ '-' :: digits).reverse.takeWhile (· ≠ '-') = digits.reverse := by
    rw [List.reverse_append, List.reverse_cons, List.append_assoc, takeWhile_reverse h]
    simp
  have hlength : (basic ++ '-' :: digits).length - digits.length - 1 = basic.length := by
    rw [List.length_append, List.length_cons]
    omega
  obtain ⟨c, basic, rfl⟩ := List.exists_cons_of_ne_nil hne
  rw [parts, htake, List.reverse_reverse, hlength, List.take_left]

theorem decode?_encode {cs : List Char}
    (hbound : (cs.length + 1) * (0x10FFFF - 0x80) < numberBound) :
    decode? (encode cs) = some cs := by
  obtain ⟨digits, r, hencode, hdigits, hread, hindex, rfl⟩ := encode_eq hbound
  have hhyphen : '-' ∉ digits := fun hmem => ne_of_isDigit (hdigits _ hmem) rfl
  have hparts : parts (encode r.text) = (r.text.filter (·.toNat < 0x80), digits) := by
    rw [hencode]
    by_cases hbasic : r.text.filter (·.toNat < 0x80) = []
    · rw [hbasic]
      exact parts_digits hhyphen
    · rw [if_neg (by simpa using hbasic), List.append_assoc, List.singleton_append,
        parts_append hbasic hhyphen]
  have hascii : (r.text.filter (·.toNat < 0x80)).all (·.toNat < 0x80) = true :=
    List.all_eq_true.mpr fun c hc => (List.mem_filter.mp hc).2
  rw [decode?, hparts]
  simp only [hascii, hread, hindex, Option.bind_eq_bind, Option.bind_some]
  rfl

example : encode "bücher".toList = "bcher-kva".toList := by decide +kernel

theorem decode?_of_encode? {cs written : List Char} (h : encode? cs = some written) :
    decode? written = some cs := by
  unfold encode? at h
  split at h
  · rename_i hbound
    obtain rfl := Option.some.inj h
    exact decode?_encode hbound
  · cases h

theorem of_mem_encode? {cs written : List Char} (h : encode? cs = some written) {c : Char}
    (hc : c ∈ written) : c ∈ cs ∨ c = '-' ∨ IsDigit c := by
  unfold encode? at h
  split at h
  · rename_i hbound
    obtain rfl := Option.some.inj h
    obtain ⟨digits, r, hencode, hdigits, -⟩ := encode_eq hbound
    rw [hencode, List.mem_append, List.mem_append] at hc
    rcases hc with (hc | hc) | hc
    · exact .inl (List.mem_filter.mp hc).1
    · split at hc
      · exact absurd hc List.not_mem_nil
      · exact .inr (.inl (List.mem_singleton.mp hc))
    · exact .inr (.inr (hdigits c hc))
  · cases h

end RequestTracing.Url.Punycode
