import Mathlib.Data.List.Forall2
import RequestTracing.Proofs.Text.Pieces
import RequestTracing.Proofs.Unicode.Tables
import RequestTracing.Proofs.Url.Address
import RequestTracing.Proofs.Url.Punycode
import RequestTracing.Url.Domain
/-!
Domain names in ASCII. The labels of a name are found again in its ASCII form, which for this reason
is its own ASCII form.
-/
namespace RequestTracing.Url

/-! ## Labels -/

theorem isLabel_iff {label : List Char} :
    isLabel label = true ↔
      (∀ c ∈ label, Unicode.isValidInDomain c = true ∧ c ≠ '.') ∧ Unicode.composed label = label ∧
      Text.after? encodedStart label = none ∧
      (isAscii label = true ∨
        label.head?.any Unicode.isMark = false ∧ joinersInPlace [] label = true) := by
  simp [isLabel, and_assoc]

theorem readLabel?_of_isLabel {label : List Char} (h : isLabel label = true) :
    readLabel? label = some label := by
  rw [readLabel?, (isLabel_iff.mp h).2.2.1]
  exact Option.filter_some_pos h

theorem isLabel_of_readLabel? {label own : List Char} (h : readLabel? label = some own) :
    isLabel own = true :=
  (Option.filter_eq_some_iff.mp h).2

theorem readLabel?_of_writeLabel? {label written : List Char} (hlabel : isLabel label = true)
    (h : writeLabel? label = some written) : readLabel? written = some label := by
  unfold writeLabel? at h
  split at h
  · obtain rfl := Option.some.inj h
    exact readLabel?_of_isLabel hlabel
  · rename_i hascii
    obtain ⟨digits, hdigits, rfl⟩ := Option.map_eq_some_iff.mp h
    have hdecode : decodeLabel? digits = some label := by
      rw [decodeLabel?, Punycode.decode?_of_encode? hdigits]
      exact Option.filter_some_pos (by simpa using hascii)
    rw [readLabel?, Text.after?_append]
    exact hdecode ▸ Option.filter_some_pos hlabel

theorem isValidInDomain_ascii {c : Char} (hascii : c.toNat < 0x80) (hlower : c.toLower = c) :
    Unicode.isValidInDomain c = true := by
  refine decide_eq_true ?_
  rw [Unicode.mapInDomain?, if_pos hascii, hlower]

theorem isValidInDomain_of_isDigit {c : Char} (h : Punycode.IsDigit c) :
    Unicode.isValidInDomain c = true ∧ c ≠ '.' := by
  obtain ⟨d, hd, rfl⟩ := h
  have hall : ∀ e ∈ List.range 36, (Punycode.digit e).toNat < 0x80 ∧
      (Punycode.digit e).toLower = Punycode.digit e ∧ Punycode.digit e ≠ '.' := by decide
  obtain ⟨hascii, hlower, hdot⟩ := hall d (List.mem_range.mpr hd)
  exact ⟨isValidInDomain_ascii hascii hlower, hdot⟩

/-- The ASCII form of a label is left alone by mapping, and it is one label. -/
theorem of_mem_writeLabel? {label written : List Char} (hlabel : isLabel label = true)
    (h : writeLabel? label = some written) :
    ∀ c ∈ written, Unicode.isValidInDomain c = true ∧ c ≠ '.' := by
  have hvalid := (isLabel_iff.mp hlabel).1
  unfold writeLabel? at h
  split at h
  · exact Option.some.inj h ▸ hvalid
  · obtain ⟨digits, hdigits, rfl⟩ := Option.map_eq_some_iff.mp h
    have hstart : ∀ c ∈ encodedStart, c.toNat < 0x80 ∧ c.toLower = c ∧ c ≠ '.' :=
      Text.forall_mem_of_all (by decide)
    intro c hc
    rcases List.mem_append.mp hc with hc | hc
    · obtain ⟨hascii, hlower, hdot⟩ := hstart c hc
      exact ⟨isValidInDomain_ascii hascii hlower, hdot⟩
    · rcases Punycode.of_mem_encode? hdigits hc with hc | rfl | hc
      · exact hvalid c hc
      · exact ⟨isValidInDomain_ascii (by decide) (by decide), by decide⟩
      · exact isValidInDomain_of_isDigit hc

/-! ## Names -/

theorem composed_ascii {cs : List Char} (h : ∀ c ∈ cs, c.toNat < 0x80) :
    Unicode.composed cs = cs := by
  refine if_pos (List.all_eq_true.mpr fun c hc => ?_)
  have hascii := h c hc
  exact decide_eq_true (by omega)

/-- Labels are read from the name made of their ASCII forms, which is its own ASCII form. -/
theorem domainToAscii?_intercalate {labels written : List (List Char)} (hne : labels ≠ [])
    (hlabels : ∀ label ∈ labels, isLabel label = true)
    (hwritten : labels.mapM writeLabel? = some written)
    (hdirection : (labels.any hasRightToLeft && !labels.all keepsDirection) = false)
    (hallowed : ∀ c ∈ ['.'].intercalate written,
      c.toNat < 0x80 ∧ isForbiddenInDomain c = false) :
    domainToAscii? (['.'].intercalate written) = some (['.'].intercalate written) := by
  have hchars : ∀ form ∈ written, ∀ c ∈ form, Unicode.isValidInDomain c = true ∧ c ≠ '.' :=
    Text.forall_mem_of_mapM_eq_some hwritten fun label hlabel _ =>
      of_mem_writeLabel? (hlabels label hlabel)
  have hmapped : (['.'].intercalate written).mapM Unicode.mapInDomain? =
      some ((['.'].intercalate written).map ([·])) := by
    refine Text.mapM_eq_some_map fun c hc => ?_
    rcases Text.mem_intercalate hc with rfl | ⟨form, hform, hc⟩
    · rfl
    · exact of_decide_eq_true (hchars form hform c hc).1
  have hflat : ((['.'].intercalate written).map ([·])).flatten = ['.'].intercalate written := by
    rw [← List.flatMap_def, List.flatMap_singleton']
  have hforms := (List.forall₂_and_left labels written).mpr
    ⟨hlabels, Text.mapM_eq_some_iff.mp hwritten⟩
  have hpieces : Text.pieces '.' (['.'].intercalate written) = written := by
    refine Text.pieces_intercalate (fun form hform hdot => (hchars form hform _ hdot).2 rfl) ?_
    rintro rfl
    exact hne (List.forall₂_nil_right_iff.mp hforms)
  have hread : written.mapM readLabel? = some labels :=
    Text.mapM_eq_some_iff.mpr
      (hforms.imp fun _ _ hform => readLabel?_of_writeLabel? hform.1 hform.2).flip
  have hlabels : readLabels? (['.'].intercalate written) = some labels := by
    rw [readLabels?, hmapped, Option.bind_eq_bind, Option.bind_some, hflat,
      composed_ascii fun c hc => (hallowed c hc).1, hpieces, hread, Option.bind_some, hdirection]
    rfl
  have hnone : (['.'].intercalate written).any
      (fun c => isForbiddenInDomain c || 0x80 ≤ c.toNat) = false := by
    refine List.any_eq_false.mpr fun c hc => ?_
    simpa [(hallowed c hc).2] using (hallowed c hc).1
  rw [domainToAscii?, hlabels, Option.bind_eq_bind, Option.bind_some, hwritten,
    Option.bind_some]
  exact if_neg (Bool.not_eq_true _ ▸ hnone)

theorem of_domainToAscii? {cs domain : List Char} (h : domainToAscii? cs = some domain) :
    ∃ labels written, labels ≠ [] ∧ (∀ label ∈ labels, isLabel label = true) ∧
      labels.mapM writeLabel? = some written ∧
      (labels.any hasRightToLeft && !labels.all keepsDirection) = false ∧
      domain = ['.'].intercalate written ∧
      ∀ c ∈ domain, c.toNat < 0x80 ∧ isForbiddenInDomain c = false := by
  rw [domainToAscii?] at h
  obtain ⟨labels, hread, h⟩ := Option.bind_eq_some_iff.mp h
  obtain ⟨written, hwritten, h⟩ := Option.bind_eq_some_iff.mp h
  dsimp only at h
  split at h
  · cases h
  rename_i hallowed
  obtain rfl := Option.some.inj h
  rw [readLabels?] at hread
  obtain ⟨mapped, -, hread⟩ := Option.bind_eq_some_iff.mp hread
  obtain ⟨own, hown, hread⟩ := Option.bind_eq_some_iff.mp hread
  split at hread
  · cases hread
  rename_i hdirection
  obtain rfl := Option.some.inj hread
  refine ⟨own, written, ?_, ?_, hwritten, Bool.not_eq_true _ ▸ hdirection, rfl, fun c hc => ?_⟩
  · rintro rfl
    have hnil := List.forall₂_nil_right_iff.mp (Text.mapM_eq_some_iff.mp hown)
    exact List.splitOn_ne_nil _ _ (Text.pieces_eq_splitOn _ _ ▸ hnil)
  · exact Text.forall_mem_of_mapM_eq_some hown fun _ _ _ => isLabel_of_readLabel?
  · have hc := List.any_eq_false.mp (Bool.not_eq_true _ ▸ hallowed) c hc
    simp only [Bool.or_eq_true, decide_eq_true_eq, not_or, Bool.not_eq_true, Nat.not_le] at hc
    exact hc.symm

theorem domainToAscii?_domain {cs domain : List Char} (h : domainToAscii? cs = some domain) :
    domainToAscii? domain = some domain := by
  obtain ⟨labels, written, hne, hlabels, hwritten, hdirection, rfl, hallowed⟩ :=
    of_domainToAscii? h
  exact domainToAscii?_intercalate hne hlabels hwritten hdirection hallowed

theorem of_mem_domain {cs domain : List Char} (h : domainToAscii? cs = some domain) {c : Char}
    (hc : c ∈ domain) : c.toNat < 0x80 ∧ isForbiddenInDomain c = false := by
  obtain ⟨labels, written, -, -, -, -, -, hallowed⟩ := of_domainToAscii? h
  exact hallowed c hc

theorem not_hasRightToLeft {label : List Char} (h : isAscii label = true) :
    hasRightToLeft label = false := by
  unfold hasRightToLeft
  rw [List.any_eq_false]
  intro c hc
  have hc : c.toNat < 0x80 := by simpa using List.all_eq_true.mp h c hc
  simpa using Unicode.direction_ascii hc

theorem domainToAscii?_dotted (n : Nat) :
    domainToAscii? (Ipv6.dotted n).toList = some (Ipv6.dotted n).toList := by
  have hdigit {c : Char} (hc : c.isDigit = true) : c.toNat < 0x80 ∧ c.toLower = c ∧ c ≠ '.' ∧
      c ≠ 'x' ∧ isForbiddenInDomain c = false := by
    refine Text.forall_ascii (P := fun c => c.isDigit = true → c.toNat < 0x80 ∧ c.toLower = c ∧
      c ≠ '.' ∧ c ≠ 'x' ∧ isForbiddenInDomain c = false) (by decide) (Text.toNat_lt_of_isDigit hc) hc
  have hchars {part : List Char} (hpart : part ∈ dottedParts n) {c : Char} (hc : c ∈ part) :=
    hdigit ((isDigit_of_mem_dottedParts hpart).2 c hc)
  have hascii {part : List Char} (hpart : part ∈ dottedParts n) : isAscii part = true :=
    List.all_eq_true.mpr fun c hc => decide_eq_true (hchars hpart hc).1
  rw [toList_dotted]
  refine domainToAscii?_intercalate (List.cons_ne_nil _ _) (fun part hpart => ?_)
    (List.map_id _ ▸ Text.mapM_eq_some_map fun part hpart => if_pos (hascii hpart)) ?_
    fun c hc => ?_
  · refine isLabel_iff.mpr ⟨fun c hc => ?_, ?_, ?_, .inl (hascii hpart)⟩
    · obtain ⟨hascii, hlower, hdot, -⟩ := hchars hpart hc
      exact ⟨isValidInDomain_ascii hascii hlower, hdot⟩
    · exact composed_ascii fun c hc => (hchars hpart hc).1
    · rw [Option.eq_none_iff_forall_ne_some]
      intro rest hrest
      have hx : 'x' ∈ part := Text.append_of_after?_eq_some hrest ▸ List.mem_cons_self
      exact (hchars hpart hx).2.2.2.1 rfl
  · rw [List.any_eq_false.mpr fun part hpart => by simp [not_hasRightToLeft (hascii hpart)]]
    rfl
  · rcases Text.mem_intercalate hc with rfl | ⟨part, hpart, hc⟩
    · decide
    · obtain ⟨hascii, -, -, -, hallowed⟩ := hchars hpart hc
      exact ⟨hascii, hallowed⟩

end RequestTracing.Url
