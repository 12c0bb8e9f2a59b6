import RequestTracing.Proofs.Url.HostText
import RequestTracing.Proofs.Url.Path
/-!
URLs with an authority in normal form. What reading makes of any text with an authority is in normal
form, and the text of such a URL without user name and password is read as the same URL.
-/
namespace RequestTracing.Url

/-! ## Schemes -/

structure IsSchemeText (cs : List Char) : Prop where
  chars : ∀ c ∈ cs, isSchemeChar c = true
  lower : cs.map Char.toLower = cs
  first : ∃ c ∈ cs.head?, c.isAlpha = true

theorem toNat_lt_of_isSchemeChar {c : Char} (h : isSchemeChar c = true) : c.toNat < 0x80 := by
  simp only [isSchemeChar, Bool.or_eq_true, decide_eq_true_eq] at h
  rcases h with ((h | rfl) | rfl) | rfl
  · have hbounds : ((decide ('A'.val ≤ c.val ∧ c.val ≤ 'Z'.val) ||
        (decide ('a'.val ≤ c.val) && decide (c.val ≤ 'z'.val))) ||
          (decide ('0'.val ≤ c.val) && decide (c.val ≤ '9'.val))) = true := h
    have hle {top : Char} (hc : c.val ≤ top.val) (htop : top.toNat < 0x80) : c.toNat < 0x80 :=
      Nat.lt_of_le_of_lt (UInt32.le_iff_toNat_le.mp hc) htop
    simp only [Bool.or_eq_true, Bool.and_eq_true, decide_eq_true_eq] at hbounds
    rcases hbounds with (⟨-, hc⟩ | ⟨-, hc⟩) | ⟨-, hc⟩
    · exact hle hc (by decide)
    · exact hle hc (by decide)
    · exact hle hc (by decide)
  · decide
  · decide
  · decide

theorem isSchemeText_of_readScheme? {cs rest : List Char} {scheme : String}
    (h : readScheme? cs = some (scheme, rest)) : IsSchemeText scheme.toList := by
  unfold readScheme? at h
  dsimp only at h
  split at h
  · rename_i first later rest' hscheme hrest
    split at h
    · rename_i halpha
      obtain ⟨rfl, rfl⟩ := Prod.mk.inj (Option.some.inj h)
      rw [String.toList_ofList, hscheme]
      have hchars : ∀ c ∈ first :: later, isSchemeChar c = true :=
        hscheme ▸ List.all_eq_true.mp List.all_takeWhile
      have hlower (c : Char) (hc : isSchemeChar c = true) :
          isSchemeChar c.toLower = true ∧ c.toLower.toLower = c.toLower ∧
            (c.isAlpha = true → c.toLower.isAlpha = true) := by
        have hascii := toNat_lt_of_isSchemeChar hc
        revert hc
        refine Text.forall_ascii (P := fun c => isSchemeChar c = true →
          isSchemeChar c.toLower = true ∧ c.toLower.toLower = c.toLower ∧
            (c.isAlpha = true → c.toLower.isAlpha = true)) (by decide) hascii
      refine ⟨fun c hc => ?_, ?_, first.toLower, rfl, ?_⟩
      · obtain ⟨d, hd, rfl⟩ := List.mem_map.mp hc
        exact (hlower d (hchars d hd)).1
      · rw [List.map_map]
        exact List.map_congr_left fun c hc => (hlower c (hchars c hc)).2.1
      · exact (hlower first (hchars first List.mem_cons_self)).2.2 halpha
    · cases h
  · cases h

theorem readScheme?_append {scheme : List Char} (h : IsSchemeText scheme) (rest : List Char) :
    readScheme? (scheme ++ ':' :: rest) = some (.ofList scheme, rest) := by
  have hcolon : isSchemeChar ':' = false := by decide
  have htake : (scheme ++ ':' :: rest).takeWhile isSchemeChar = scheme := by
    rw [List.takeWhile_append_of_pos h.chars, List.takeWhile_cons_of_neg (by simp [hcolon]),
      List.append_nil]
  have hdrop : (scheme ++ ':' :: rest).dropWhile isSchemeChar = ':' :: rest := by
    rw [List.dropWhile_append_of_pos h.chars, List.dropWhile_cons_of_neg (by simp [hcolon])]
  obtain ⟨first, hfirst, halpha⟩ := h.first
  obtain ⟨later, rfl⟩ := List.head?_eq_some_iff.mp hfirst
  unfold readScheme?
  rw [htake, hdrop]
  simp only [halpha, if_true, h.lower]

/-! ## Ports -/

theorem of_readPort? {scheme : String} {cs : List Char} {port : Option Nat}
    (h : readPort? scheme cs = some port) :
    ∀ p ∈ port, p ≤ 65535 ∧ impliedPort? scheme ≠ some p := by
  unfold readPort? at h
  split at h
  · obtain rfl := Option.some.inj h
    simp
  · obtain ⟨n, -, h⟩ := Option.bind_eq_some_iff.mp h
    split at h
    · cases h
    · rename_i hle
      obtain rfl := Option.some.inj h
      split
      · simp
      · rename_i himplied
        rintro p hp
        obtain rfl := Option.some.inj hp
        exact ⟨Nat.le_of_not_lt hle, himplied⟩

theorem readPort?_toDigits {scheme : String} {port : Option Nat}
    (h : ∀ p ∈ port, p ≤ 65535 ∧ impliedPort? scheme ≠ some p) :
    readPort? scheme ((port.map (Nat.toDigits 10)).getD []) = some port := by
  cases port with
  | none => rfl
  | some p =>
    obtain ⟨hle, himplied⟩ := h p rfl
    have hread := Text.readDigits?_toDigits p
    simp [readPort?, hread, Nat.toDigits_ne_nil, himplied, Nat.not_lt.mpr hle]

/-! ## Paths, queries and fragments -/

def markedPart (mark : Char) (part : Option String) : List Char :=
  match part with
  | some part => mark :: part.toList
  | none => []

/-- What follows the authority of a URL. -/
def afterAuthority (url : Url) : List Char :=
  url.path.toList ++ markedPart '?' url.query ++ markedPart '#' url.fragment

theorem cut?_append_markedPart {mark : Char} {front : List Char} (h : mark ∉ front)
    (part : Option String) : Text.cut? mark (front ++ markedPart mark part) =
      part.map fun part => (front, part.toList) := by
  cases part with
  | none => rw [markedPart, List.append_nil, Text.cut?_eq_none h, Option.map_none]
  | some part => rw [markedPart, Text.cut?_append_cons h, Option.map_some]

/-- Whether path, query and fragment of a URL are in normal form. -/
structure IsNormalTail (url : Url) : Prop where
  path : IsNormalPath (isSpecial url.scheme) url.path.toList
  query : ∀ query ∈ url.query, ∀ c ∈ query.toList, IsWritten (isQueryEncoded (isSpecial url.scheme)) c
  fragment : ∀ fragment ∈ url.fragment, ∀ c ∈ fragment.toList, IsWritten isFragmentEncoded c

namespace IsNormalTail

variable {url : Url} (h : url.IsNormalTail)

include h

theorem not_mem_path {c : Char} (hc : c = '?' ∨ c = '#') : c ∉ url.path.toList := by
  intro hmem
  have hwritten := h.path.written c hmem
  rcases hc with rfl | rfl
  · exact absurd hwritten (by decide)
  · exact absurd hwritten (by decide)

theorem not_mem_query {query : String} (hquery : query ∈ url.query) : '#' ∉ query.toList := by
  intro hmem
  have hwritten := h.query query hquery '#' hmem
  cases hspecial : isSpecial url.scheme <;> rw [hspecial] at hwritten <;>
    exact absurd hwritten (by decide)

theorem cutPath_afterAuthority : cutPath url.afterAuthority =
    (url.path.toList, url.query.map String.toList, url.fragment.map String.toList) := by
  have hfront : '#' ∉ url.path.toList ++ markedPart '?' url.query := by
    rw [List.mem_append, not_or]
    refine ⟨h.not_mem_path (.inr rfl), fun hmem => ?_⟩
    cases hquery : url.query with
    | none => simp [hquery, markedPart] at hmem
    | some query =>
      rw [hquery, markedPart, List.mem_cons] at hmem
      exact h.not_mem_query hquery (hmem.resolve_left (by decide))
  have hquery := cut?_append_markedPart (h.not_mem_path (.inl rfl)) url.query
  unfold cutPath afterAuthority
  rw [cut?_append_markedPart hfront]
  cases url.fragment with
  | none =>
    rw [markedPart, List.append_nil, Option.map_none]
    dsimp only
    rw [hquery]
    cases url.query <;> simp [markedPart]
  | some fragment =>
    rw [Option.map_some]
    dsimp only
    rw [hquery]
    cases url.query <;> simp [markedPart]

theorem head?_afterAuthority (special : Bool) :
    ∀ c ∈ url.afterAuthority.head?, endsAuthority special c = true := by
  intro c hc
  have hmark : c = '/' ∨ c = '?' ∨ c = '#' := by
    have hpath := h.path.head
    unfold afterAuthority at hc
    cases hcase : url.path.toList with
    | cons d rest =>
      rw [hcase] at hc hpath
      exact .inl (hpath c hc)
    | nil =>
      rw [hcase, List.nil_append] at hc
      cases hquery : url.query with
      | some query =>
        rw [hquery] at hc
        exact .inr (.inl (Option.some.inj hc).symm)
      | none =>
        cases hfragment : url.fragment with
        | some fragment =>
          rw [hquery, hfragment] at hc
          exact .inr (.inr (Option.some.inj hc).symm)
        | none =>
          rw [hquery, hfragment] at hc
          cases hc
  rcases hmark with rfl | rfl | rfl <;> rfl

theorem visible : ∀ c ∈ url.afterAuthority, 0x20 < c.toNat := by
  have hmarked {mark : Char} (hmark : 0x20 < mark.toNat) {encode : UInt8 → Bool}
      (hencode : ∀ n < 0x80, IsWritten encode (Char.ofNat n) → 0x20 < (Char.ofNat n).toNat)
      {part : Option String} (hpart : ∀ text ∈ part, ∀ c ∈ text.toList, IsWritten encode c) :
      ∀ c ∈ markedPart mark part, 0x20 < c.toNat := by
    cases part with
    | none => simp [markedPart]
    | some part =>
      refine List.forall_mem_cons.mpr ⟨hmark, fun c hc => ?_⟩
      have hwritten := hpart part rfl c hc
      exact Text.forall_ascii (P := fun c => IsWritten encode c → 0x20 < c.toNat) hencode
        hwritten.1 hwritten
  intro c hc
  rcases List.mem_append.mp hc with hc | hc
  · rcases List.mem_append.mp hc with hc | hc
    · have hwritten := h.path.written c hc
      exact Text.forall_ascii (P := fun c => IsWritten isPathEncoded c → 0x20 < c.toNat)
        (by decide) hwritten.1 hwritten
    · refine hmarked (by decide) ?_ h.query c hc
      cases isSpecial url.scheme <;> decide
  · exact hmarked (by decide) (by decide) h.fragment c hc

end IsNormalTail

end RequestTracing.Url
