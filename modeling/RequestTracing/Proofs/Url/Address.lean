import RequestTracing.Proofs.Text.Pieces
import RequestTracing.Proofs.Text.PercentDecoding
import RequestTracing.Url.Host
/-!
Addresses as hosts of URLs. The notation of an address of either version is read back as the same
address, the one with the longest run of zero groups left out as well.
-/
namespace RequestTracing.Url

/-! ## Addresses of version 4 -/

def dottedParts (n : Nat) : List (List Char) :=
  [n / 0x1000000 % 256, n / 0x10000 % 256, n / 0x100 % 256, n % 256].map (Nat.toDigits 10)

theorem toList_dotted (n : Nat) : (Ipv6.dotted n).toList = ['.'].intercalate (dottedParts n) := by
  rw [Ipv6.dotted, String.toList_intercalate]
  simp [dottedParts]

theorem isDigit_of_mem_dottedParts {n : Nat} {part : List Char} (h : part ∈ dottedParts n) :
    part ≠ [] ∧ ∀ c ∈ part, c.isDigit = true := by
  obtain ⟨b, -, rfl⟩ := List.mem_map.mp h
  exact ⟨Nat.toDigits_ne_nil, fun c hc => Nat.isDigit_of_mem_toDigits (by decide) (by decide) hc⟩

theorem dotted_ne_nil (n : Nat) : (Ipv6.dotted n).toList ≠ [] := by
  obtain ⟨rest, hrest⟩ := Text.exists_intercalate_cons '.'
    (Nat.toDigits 10 (n / 0x1000000 % 256)) (dottedParts n).tail
  have htext : (Ipv6.dotted n).toList = Nat.toDigits 10 (n / 0x1000000 % 256) ++ rest := by
    rw [toList_dotted, ← hrest]
    rfl
  rw [htext]
  exact List.append_ne_nil_of_left_ne_nil Nat.toDigits_ne_nil rest

theorem addressParts_dotted (n : Nat) : addressParts (Ipv6.dotted n).toList = dottedParts n := by
  have hpieces : Text.pieces '.' (Ipv6.dotted n).toList = dottedParts n := by
    rw [toList_dotted]
    refine Text.pieces_intercalate (fun part hpart hdot => ?_) (List.cons_ne_nil _ _)
    exact absurd ((isDigit_of_mem_dottedParts hpart).2 '.' hdot) (by decide)
  have hlast : (dottedParts n).getLast? ≠ some [] := fun hlast =>
    (isDigit_of_mem_dottedParts (List.mem_of_getLast? hlast)).1 rfl
  rw [addressParts, Text.terminated, hpieces, if_neg hlast]

theorem readAddressPart?_toDigits {b : Nat} (h : b < 256) :
    readAddressPart? (Nat.toDigits 10 b) = some b := by
  revert b
  decide +kernel

theorem endsInNumber_dotted (n : Nat) : endsInNumber (Ipv6.dotted n).toList = true := by
  have hlast : (dottedParts n).getLast? = some (Nat.toDigits 10 (n % 256)) := rfl
  obtain ⟨hne, hdigits⟩ := isDigit_of_mem_dottedParts (List.mem_of_getLast? hlast)
  simp [endsInNumber, addressParts_dotted, hlast, hne, List.all_eq_true.mpr hdigits]

theorem readIpv4?_dotted {n : Nat} (h : n < 0x100000000) :
    readIpv4? (Ipv6.dotted n).toList = some n := by
  have hparts : (dottedParts n).mapM readAddressPart? =
      some [n / 0x1000000 % 256, n / 0x10000 % 256, n / 0x100 % 256, n % 256] := by
    have hbyte (m : Nat) : m % 256 < 256 := Nat.mod_lt m (by decide)
    simp [dottedParts, readAddressPart?_toDigits, hbyte]
  have hbytes (m : Nat) : ¬255 < m % 256 := by omega
  rw [readIpv4?, addressParts_dotted, hparts]
  simp [hbytes]
  omega

theorem foldl_bytes_lt {bytes : List Nat} (h : ∀ b ∈ bytes, b < 256) (n : Nat) :
    bytes.foldl (fun n b => 256 * n + b) n < (n + 1) * Nat.pow 256 bytes.length := by
  induction bytes generalizing n with
  | nil => simp
  | cons b bytes ih =>
    obtain ⟨hb, hrest⟩ := List.forall_mem_cons.mp h
    calc (b :: bytes).foldl (fun n b => 256 * n + b) n
        < (256 * n + b + 1) * Nat.pow 256 bytes.length := ih hrest _
      _ ≤ (n + 1) * 256 * Nat.pow 256 bytes.length := Nat.mul_le_mul_right _ (by omega)
      _ = (n + 1) * Nat.pow 256 (b :: bytes).length := by
        rw [List.length_cons, Nat.pow_eq, Nat.pow_eq, Nat.pow_succ', Nat.mul_assoc]

theorem readIpv4?_lt {cs : List Char} {n : Nat} (h : readIpv4? cs = some n) :
    n < 0x100000000 := by
  simp only [readIpv4?, Option.bind_eq_bind, Option.bind_eq_some_iff] at h
  obtain ⟨parts, -, last, -, h⟩ := h
  split at h
  · cases h
  · rename_i hbounds
    simp only [Bool.or_eq_true, decide_eq_true_eq, List.any_eq_true, not_or, not_exists,
      not_and, Nat.not_lt, Nat.not_le] at hbounds
    obtain ⟨⟨hlength, hbytes⟩, hlast⟩ := hbounds
    have hfront := foldl_bytes_lt (fun b hb => Nat.lt_succ_of_le (hbytes b hb)) 0
    have hpow : Nat.pow 256 parts.dropLast.length * Nat.pow 256 (4 - parts.dropLast.length) =
        0x100000000 := by
      rw [Nat.pow_eq, Nat.pow_eq, ← Nat.pow_add, Nat.add_sub_cancel' (Nat.le_succ_of_le hlength)]
    obtain rfl := Option.some.inj h
    calc parts.dropLast.foldl (fun n part => 256 * n + part) 0 *
          Nat.pow 256 (4 - parts.dropLast.length) + last
        < parts.dropLast.foldl (fun n part => 256 * n + part) 0 *
          Nat.pow 256 (4 - parts.dropLast.length) + Nat.pow 256 (4 - parts.dropLast.length) :=
        Nat.add_lt_add_left hlast _
      _ = (parts.dropLast.foldl (fun n part => 256 * n + part) 0 + 1) *
          Nat.pow 256 (4 - parts.dropLast.length) := (Nat.succ_mul _ _).symm
      _ ≤ Nat.pow 256 parts.dropLast.length * Nat.pow 256 (4 - parts.dropLast.length) :=
        Nat.mul_le_mul_right _ (by omega)
      _ = 0x100000000 := hpow

/-! ## Addresses of version 6 -/

theorem readHexDigits?_toDigits (n : Nat) :
    Text.readHexDigits? (Nat.toDigits 16 n) = some n := by
  induction n using Nat.strongRecOn with
  | ind n ih =>
    have hdigit : Text.hexDigit? (Nat.digitChar (n % 16)) = some (n % 16) :=
      Text.hexDigit?_digitChar (Nat.mod_lt n (by decide))
    by_cases hn : n < 16
    · rw [Nat.mod_eq_of_lt hn] at hdigit
      simp [Nat.toDigits_of_lt_base hn, Text.readHexDigits?, hdigit]
    · have hread := ih (n / 16) (Nat.div_lt_self (by omega) (by decide))
      unfold Text.readHexDigits? at hread ⊢
      rw [Nat.toDigits_of_base_le (by decide) (Nat.le_of_not_lt hn), List.foldlM_append, hread]
      simp [hdigit, Nat.div_add_mod]

theorem hexDigit?_lt {c : Char} {d : Nat} (h : Text.hexDigit? c = some d) : d < 16 := by
  have hascii : c.toNat < 0x80 := Text.toNat_lt_of_hexDigit? h
  exact Text.forall_ascii (P := fun c => ∀ d ∈ Text.hexDigit? c, d < 16) (by decide) hascii d h

theorem foldlM_hexDigits_lt {cs : List Char} {m n : Nat}
    (h : cs.foldlM (fun n c => (Text.hexDigit? c).map (16 * n + ·)) m = some n) :
    n < (m + 1) * Nat.pow 16 cs.length := by
  induction cs generalizing m with
  | nil =>
    obtain rfl := Option.some.inj h
    simp
  | cons c cs ih =>
    rw [List.foldlM_cons] at h
    obtain ⟨next, hnext, h⟩ := Option.bind_eq_some_iff.mp h
    obtain ⟨d, hd, rfl⟩ := Option.map_eq_some_iff.mp hnext
    have hd := hexDigit?_lt hd
    calc n < (16 * m + d + 1) * Nat.pow 16 cs.length := ih h
      _ ≤ (m + 1) * 16 * Nat.pow 16 cs.length := Nat.mul_le_mul_right _ (by omega)
      _ = (m + 1) * Nat.pow 16 (c :: cs).length := by
        rw [List.length_cons, Nat.pow_eq, Nat.pow_eq, Nat.pow_succ', Nat.mul_assoc]

theorem readGroup?_toDigits {g : Nat} (h : g < 0x10000) :
    readGroup? (Nat.toDigits 16 g) = some g := by
  have hlength : (Nat.toDigits 16 g).length ≤ 4 :=
    (Nat.length_toDigits_le_iff (by decide) (by decide)).mpr h
  simp [readGroup?, Nat.toDigits_ne_nil, Nat.not_lt.mpr hlength, readHexDigits?_toDigits]

theorem readGroup?_lt {cs : List Char} {g : Nat} (h : readGroup? cs = some g) : g < 0x10000 := by
  unfold readGroup? at h
  split at h
  · cases h
  · rename_i hlength
    simp only [Bool.or_eq_true, decide_eq_true_eq, not_or, Nat.not_lt] at hlength
    calc g < (0 + 1) * Nat.pow 16 cs.length := foldlM_hexDigits_lt h
      _ = Nat.pow 16 cs.length := Nat.one_mul _
      _ ≤ Nat.pow 16 4 := Nat.pow_le_pow_right (by decide) hlength.2

theorem isHexDigit_of_mem_toDigits {n : Nat} {c : Char} (h : c ∈ Nat.toDigits 16 n) :
    (Text.hexDigit? c).isSome = true := by
  induction n using Nat.strongRecOn with
  | ind n ih =>
    have hdigit : (Text.hexDigit? (Nat.digitChar (n % 16))).isSome = true := by
      rw [Text.hexDigit?_digitChar (Nat.mod_lt n (by decide))]
      rfl
    rw [Nat.toDigits_eq_if (by decide)] at h
    split at h
    · rename_i hn
      rw [List.mem_singleton.mp h, ← Nat.mod_eq_of_lt hn]
      exact hdigit
    · rename_i hn
      rcases List.mem_append.mp h with h | h
      · exact ih (n / 16) (Nat.div_lt_self (by omega) (by decide)) h
      · exact List.mem_singleton.mp h ▸ hdigit

theorem readGroups?_toDigits {groups : List Nat} (h : ∀ g ∈ groups, g < 0x10000) :
    readGroups? (groups.map (Nat.toDigits 16)) = some groups := by
  induction groups with
  | nil => rfl
  | cons g groups ih =>
    obtain ⟨hg, hrest⟩ := List.forall_mem_cons.mp h
    cases groups with
    | nil =>
      have hdot : '.' ∉ Nat.toDigits 16 g := fun hmem =>
        absurd (isHexDigit_of_mem_toDigits hmem) (by decide)
      simp [readGroups?, hdot, readGroup?_toDigits hg]
    | cons next groups =>
      rw [List.map_cons, readGroups?.eq_3 _ _ (by simp), readGroup?_toDigits hg, ih hrest]
      rfl

theorem readByte?_lt {cs : List Char} {n : Nat} (h : readByte? cs = some n) : n < 256 := by
  unfold readByte? at h
  split at h
  · obtain rfl := Option.some.inj h
    decide
  · cases h
  · simpa using (Option.filter_eq_some_iff.mp h).2

theorem readDottedEnd?_lt {cs : List Char} {groups : List Nat}
    (h : readDottedEnd? cs = some groups) : ∀ g ∈ groups, g < 0x10000 := by
  unfold readDottedEnd? at h
  split at h
  · rename_i a b c d hbytes
    have hbyte : ∀ n ∈ [a, b, c, d], n < 256 :=
      Text.forall_mem_of_mapM_eq_some hbytes fun _ _ _ => readByte?_lt
    simp only [List.forall_mem_cons] at hbyte
    obtain ⟨ha, hb, hc, hd, -⟩ := hbyte
    obtain rfl := Option.some.inj h
    simp only [List.forall_mem_cons]
    exact ⟨by omega, by omega, by simp⟩
  · cases h

theorem readGroups?_lt {parts : List (List Char)} {groups : List Nat}
    (h : readGroups? parts = some groups) : ∀ g ∈ groups, g < 0x10000 := by
  induction parts generalizing groups with
  | nil =>
    obtain rfl := Option.some.inj h
    simp
  | cons part parts ih =>
    cases parts with
    | nil =>
      rw [readGroups?] at h
      split at h
      · exact readDottedEnd?_lt h
      · obtain ⟨g, hg, rfl⟩ := Option.map_eq_some_iff.mp h
        simpa using readGroup?_lt hg
    | cons next parts =>
      rw [readGroups?.eq_3 _ _ (by simp)] at h
      obtain ⟨g, hg, h⟩ := Option.bind_eq_some_iff.mp h
      obtain ⟨rest, hrest, h⟩ := Option.bind_eq_some_iff.mp h
      obtain rfl := Option.some.inj h
      exact List.forall_mem_cons.mpr ⟨readGroup?_lt hg, ih hrest⟩

/-! ### Runs of zeros -/

def HasZeros (groups : List Nat) (run : Nat × Nat) : Prop :=
  ∃ front back, groups = front ++ List.replicate run.2 0 ++ back ∧ front.length = run.1

/-- What is found are zeros, if those before and the present run are. -/
theorem hasZeros_longestZeros {groups front rest : List Nat} {length : Nat} {best : Nat × Nat}
    (hgroups : groups = front ++ List.replicate length 0 ++ rest) (hbest : HasZeros groups best) :
    HasZeros groups (Ipv6.longestZeros (front.length + length) front.length length best rest) := by
  induction rest generalizing front length best with
  | nil => exact hbest
  | cons g rest ih =>
    rw [Ipv6.longestZeros]
    split
    · rename_i hg
      have hnext : groups = front ++ List.replicate (length + 1) 0 ++ rest := by
        rw [hgroups, hg, List.replicate_succ']
        simp
      refine ih hnext ?_
      split
      · exact ⟨front, rest, hnext, rfl⟩
      · exact hbest
    · have hnext : groups = (front ++ List.replicate length 0 ++ [g]) ++
          List.replicate 0 0 ++ rest := by
        simp [hgroups]
      simpa [Nat.add_assoc] using ih hnext hbest

/-! ### The double colon -/

theorem cutDoubleColon?_append_of_not_mem {part : List Char} (h : ':' ∉ part)
    (rest : List Char) : cutDoubleColon? (part ++ rest) =
      (cutDoubleColon? rest).map fun (before, after) => (part ++ before, after) := by
  induction part with
  | nil => simp
  | cons c part ih =>
    obtain ⟨hc, hpart⟩ := not_or.mp fun hmem => h (List.mem_cons.mpr hmem)
    rw [List.cons_append, cutDoubleColon?, ih hpart, Option.map_map]
    · rfl
    · rintro rest rfl
      exact absurd rfl hc

/-- No double colon is among parts that are not empty; the first one follows them. -/
theorem cutDoubleColon?_intercalate {parts : List (List Char)}
    (h : ∀ part ∈ parts, part ≠ [] ∧ ':' ∉ part) (rest : List Char) :
    cutDoubleColon? ([':'].intercalate parts ++ rest) =
      (cutDoubleColon? rest).map fun (before, after) =>
        ([':'].intercalate parts ++ before, after) := by
  induction parts with
  | nil => simp
  | cons part parts ih =>
    obtain ⟨⟨hne, hpart⟩, hparts⟩ := List.forall_mem_cons.mp h
    by_cases hlast : parts = []
    · subst hlast
      simpa using cutDoubleColon?_append_of_not_mem hpart rest
    · obtain ⟨d, tail, hd, htail⟩ : ∃ d tail, d ≠ ':' ∧ [':'].intercalate parts = d :: tail := by
        obtain ⟨next, later, rfl⟩ := List.exists_cons_of_ne_nil hlast
        obtain ⟨hnext, hcolon⟩ := (List.forall_mem_cons.mp hparts).1
        obtain ⟨d, next, rfl⟩ := List.exists_cons_of_ne_nil hnext
        obtain ⟨tail, htail⟩ := Text.exists_intercalate_cons ':' (d :: next) later
        exact ⟨d, next ++ tail, fun hd => hcolon (hd ▸ List.mem_cons_self), htail⟩
      have hcolon : cutDoubleColon? (':' :: ([':'].intercalate parts ++ rest)) =
          (cutDoubleColon? ([':'].intercalate parts ++ rest)).map fun (before, after) =>
            (':' :: before, after) := by
        rw [cutDoubleColon?]
        rintro after - heq
        rw [htail] at heq
        exact hd (List.cons.inj heq).1
      rw [List.intercalate_cons_of_ne_nil hlast, List.append_assoc, List.append_assoc,
        cutDoubleColon?_append_of_not_mem hpart, List.singleton_append, hcolon, ih hparts,
        Option.map_map, Option.map_map]
      congr 1
      funext ⟨before, after⟩
      simp

theorem toList_groupsText (groups : List Nat) : (Ipv6.groupsText groups).toList =
    [':'].intercalate (groups.map (Nat.toDigits 16)) := by
  rw [Ipv6.groupsText, String.toList_intercalate]
  simp [Function.comp_def, Text.hexadecimal]

theorem of_mem_groupsText {groups : List Nat} {c : Char}
    (h : c ∈ (Ipv6.groupsText groups).toList) : c = ':' ∨ (Text.hexDigit? c).isSome = true := by
  rw [toList_groupsText] at h
  refine (Text.mem_intercalate h).imp_right fun ⟨part, hpart, hc⟩ => ?_
  obtain ⟨g, -, rfl⟩ := List.mem_map.mp hpart
  exact isHexDigit_of_mem_toDigits hc

theorem colonless_groups (groups : List Nat) :
    ∀ part ∈ groups.map (Nat.toDigits 16), part ≠ [] ∧ ':' ∉ part := by
  intro part hpart
  obtain ⟨g, -, rfl⟩ := List.mem_map.mp hpart
  exact ⟨Nat.toDigits_ne_nil, fun hmem => absurd (isHexDigit_of_mem_toDigits hmem) (by decide)⟩

theorem readSide_groupsText {groups : List Nat} (h : ∀ g ∈ groups, g < 0x10000) :
    (if (Ipv6.groupsText groups).toList.isEmpty then some []
      else readGroups? (Text.pieces ':' (Ipv6.groupsText groups).toList)) = some groups := by
  by_cases hne : groups = []
  · subst hne
    rfl
  · have hparts := colonless_groups groups
    have htext : (Ipv6.groupsText groups).toList ≠ [] := by
      obtain ⟨g, later, rfl⟩ := List.exists_cons_of_ne_nil hne
      obtain ⟨rest, hrest⟩ := Text.exists_intercalate_cons ':' (Nat.toDigits 16 g)
        (later.map (Nat.toDigits 16))
      rw [toList_groupsText, List.map_cons, hrest]
      exact List.append_ne_nil_of_left_ne_nil Nat.toDigits_ne_nil rest
    rw [if_neg (by simpa using htext), toList_groupsText, Text.pieces_intercalate
      (fun part hpart => (hparts part hpart).2) (by simpa using hne), readGroups?_toDigits h]

theorem readIpv6?_doubleColon {front back : List Nat} (hlength : front.length + back.length < 8)
    (hfront : ∀ g ∈ front, g < 0x10000) (hback : ∀ g ∈ back, g < 0x10000) :
    readIpv6? (Ipv6.groupsText front ++ "::" ++ Ipv6.groupsText back).toList =
      some (front ++ List.replicate (8 - front.length - back.length) 0 ++ back) := by
  have hcut : cutDoubleColon? (Ipv6.groupsText front ++ "::" ++ Ipv6.groupsText back).toList =
      some ((Ipv6.groupsText front).toList, (Ipv6.groupsText back).toList) := by
    have hcut := cutDoubleColon?_intercalate (colonless_groups front)
      (':' :: ':' :: (Ipv6.groupsText back).toList)
    rw [← toList_groupsText] at hcut
    simpa [cutDoubleColon?] using hcut
  have hdots : (Ipv6.groupsText front).toList.contains '.' = false := by
    rw [List.contains_eq_mem, decide_eq_false_iff_not]
    exact fun hmem => absurd (of_mem_groupsText hmem) (by decide)
  unfold readIpv6?
  rw [hcut]
  simp only [hdots, readSide_groupsText hfront, readSide_groupsText hback]
  simp [hlength]

theorem readIpv6?_text {groups : List Nat} (hlength : groups.length = 8)
    (h : ∀ g ∈ groups, g < 0x10000) : readIpv6? (Ipv6.text groups).toList = some groups := by
  have hempty : HasZeros groups (0, 0) := ⟨[], groups, rfl, rfl⟩
  have hzeros : HasZeros groups (Ipv6.longestZeros 0 0 0 (0, 0) groups) :=
    hasZeros_longestZeros (show groups = [] ++ List.replicate 0 0 ++ groups from rfl) hempty
  unfold Ipv6.text
  generalize Ipv6.longestZeros 0 0 0 (0, 0) groups = run at hzeros
  obtain ⟨start, length⟩ := run
  dsimp only
  by_cases hshort : length < 2
  · have hcut : cutDoubleColon? (Ipv6.groupsText groups).toList = none := by
      have hcut := cutDoubleColon?_intercalate (colonless_groups groups) []
      rwa [List.append_nil, ← toList_groupsText] at hcut
    rw [if_pos hshort, readIpv6?, hcut]
    simp only [readSide_groupsText h]
    simp [hlength]
  · obtain ⟨front, back, rfl, rfl⟩ := hzeros
    dsimp only at *
    simp only [List.length_append, List.length_replicate] at hlength
    have hmem {g : Nat} (hg : g ∈ front ∨ g ∈ back) : g < 0x10000 :=
      h g (by simpa using hg.imp_right .inr)
    have hread := readIpv6?_doubleColon (by omega) (fun g hg => hmem (.inl hg))
      (fun g hg => hmem (.inr hg))
    rw [show 8 - front.length - back.length = length by omega] at hread
    have hback : (front ++ List.replicate length 0 ++ back).drop (front.length + length) = back :=
      List.drop_left' (by simp)
    rw [if_neg hshort, hback, List.append_assoc, List.take_left, ← List.append_assoc]
    exact hread

theorem of_mem_ipv6Text {groups : List Nat} {c : Char} (h : c ∈ (Ipv6.text groups).toList) :
    c = ':' ∨ (Text.hexDigit? c).isSome = true := by
  unfold Ipv6.text at h
  dsimp only at h
  split at h
  · exact of_mem_groupsText h
  · simp only [String.toList_append, List.mem_append] at h
    rcases h with (h | h) | h
    · exact of_mem_groupsText h
    · exact .inl (by simpa using h)
    · exact of_mem_groupsText h

theorem readSide_lt {part : List Char} {groups : List Nat}
    (h : (if part.isEmpty then some [] else readGroups? (Text.pieces ':' part)) = some groups) :
    ∀ g ∈ groups, g < 0x10000 := by
  split at h
  · obtain rfl := Option.some.inj h
    simp
  · exact readGroups?_lt h

theorem of_readIpv6? {cs : List Char} {groups : List Nat} (h : readIpv6? cs = some groups) :
    groups.length = 8 ∧ ∀ g ∈ groups, g < 0x10000 := by
  unfold readIpv6? at h
  simp only at h
  split at h
  · obtain ⟨hread, hlength⟩ := Option.filter_eq_some_iff.mp h
    exact ⟨by simpa using hlength, readSide_lt hread⟩
  · split at h
    · cases h
    · obtain ⟨front, hfront, h⟩ := Option.bind_eq_some_iff.mp h
      obtain ⟨back, hback, h⟩ := Option.bind_eq_some_iff.mp h
      split at h
      · rename_i hlt
        obtain rfl := Option.some.inj h
        refine ⟨by simp only [List.length_append, List.length_replicate]; omega, fun g hg => ?_⟩
        rcases List.mem_append.mp hg with hg | hg
        · rcases List.mem_append.mp hg with hg | hg
          · exact readSide_lt hfront g hg
          · rw [(List.mem_replicate.mp hg).2]
            decide
        · exact readSide_lt hback g hg
      · cases h

end RequestTracing.Url
