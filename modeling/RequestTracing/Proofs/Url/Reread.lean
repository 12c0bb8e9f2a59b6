import Mathlib.Data.List.TakeWhile
import RequestTracing.Proofs.Url.NormalForm
/-!
URLs with an authority in normal form.
-/
namespace RequestTracing.Url

/-! ## URLs with an authority -/

def hostReader (special : Bool) : List Char → Option Host :=
  if special then readHost? else readOpaqueHost?

/-- Whether a URL that may have credentials is in normal form, apart from these. -/
structure IsNormal (url : Url) (host : Host) : Prop where
  scheme : IsSchemeText url.scheme.toList
  notFile : url.scheme ≠ "file"
  hasHost : url.host = some host
  notEmpty : host ≠ .name ""
  hostRead : IsReadHost (hostReader (isSpecial url.scheme)) host
  port : ∀ p ∈ url.port, p ≤ 65535 ∧ impliedPort? url.scheme ≠ some p
  tail : url.IsNormalTail

theorem readUserinfo_nil : readUserinfo [] = ("", none) := by
  decide

theorem isNormalTail_of_read {url : Url} {path : List Char} {query fragment : Option (List Char)}
    (hpath : url.path = normalPath (isSpecial url.scheme) path)
    (hquery : url.query = query.map (percentEncodeChars (isQueryEncoded (isSpecial url.scheme))))
    (hfragment : url.fragment = fragment.map (percentEncodeChars isFragmentEncoded)) :
    url.IsNormalTail := by
  have hencoded {encode : UInt8 → Bool} (hencode : IsEncoding encode) {part : Option (List Char)} :
      ∀ text ∈ part.map (percentEncodeChars encode), ∀ c ∈ text.toList, IsWritten encode c := by
    intro text htext c hc
    obtain ⟨cs, -, rfl⟩ := Option.map_eq_some_iff.mp htext
    exact (of_mem_percentEncodeChars hencode hc).1
  refine ⟨hpath ▸ isNormalPath_normalPath _ _, ?_, ?_⟩
  · rw [hquery]
    exact hencoded (isEncoding_query _)
  · rw [hfragment]
    exact hencoded isEncoding_fragment

theorem isNormal_of_readAuthority? {scheme : String} {cs : List Char} {url : Url}
    (h : readAuthority? scheme cs = some url) (hcredentials : url.hasCredentials = true)
    (hscheme : IsSchemeText scheme.toList) (hfile : scheme ≠ "file") :
    ∃ host, url.IsNormal host := by
  unfold readAuthority? at h
  dsimp only at h
  split at h
  · cases h
  · split at h
    · cases h
    · rename_i hempty
      obtain ⟨port, hport, h⟩ := Option.bind_eq_some_iff.mp h
      split at h
      · rename_i hspecial
        obtain ⟨host, hread, h⟩ := Option.bind_eq_some_iff.mp h
        obtain ⟨hreads, hne⟩ := isReadHost_of_readHost? hread
        obtain rfl := Option.some.inj h
        exact ⟨host, hscheme, hfile, rfl, hne, by rwa [hostReader, if_pos hspecial],
          of_readPort? hport, isNormalTail_of_read rfl rfl rfl⟩
      · rename_i hspecial
        obtain ⟨host, hread, h⟩ := Option.bind_eq_some_iff.mp h
        obtain ⟨hreads, hne⟩ := isReadHost_of_readOpaqueHost? hread
        obtain rfl := Option.some.inj h
        refine ⟨host, hscheme, hfile, rfl, hne ?_, by rwa [hostReader, if_neg hspecial],
          of_readPort? hport, isNormalTail_of_read rfl rfl rfl⟩
        -- Before an empty host no credentials are read.
        intro hnil
        refine hempty (Bool.and_eq_true_iff.mpr ⟨by rw [hnil]; rfl, ?_⟩)
        simp only [hasCredentials, Bool.or_eq_true, bne_iff_ne] at hcredentials
        simp only [Bool.or_eq_true, decide_eq_true_eq]
        exact hcredentials.imp_left .inr

/-- A URL with credentials is that of a scheme before an authority, and in normal form. -/
theorem isNormal_of_parse? {s : String} {url : Url} (h : parse? s = some url)
    (hcredentials : url.hasCredentials = true) : ∃ host, url.IsNormal host := by
  unfold parse? at h
  obtain ⟨⟨scheme, rest⟩, hread, h⟩ := Option.bind_eq_some_iff.mp h
  have hscheme := isSchemeText_of_readScheme? hread
  dsimp only at h
  split at h
  · unfold readFile? at h
    obtain ⟨host, -, rfl⟩ := Option.map_eq_some_iff.mp h
    cases hcredentials
  · rename_i hfile
    split at h
    · exact isNormal_of_readAuthority? h hcredentials hscheme hfile
    · split at h
      · exact isNormal_of_readAuthority? h hcredentials hscheme hfile
      · obtain rfl := Option.some.inj h
        cases hcredentials

/-! ## What is written -/

theorem of_mem_portPart {port : Option Nat} {c : Char}
    (h : c ∈ portPart (port.map (Nat.toDigits 10))) :
    c ∈ [':', '0', '1', '2', '3', '4', '5', '6', '7', '8', '9'] := by
  cases port with
  | none => exact absurd h List.not_mem_nil
  | some n =>
    rcases List.mem_cons.mp h with rfl | h
    · exact List.mem_cons_self
    · have hdigit : c.isDigit = true :=
        Nat.isDigit_of_mem_toDigits (by decide) (by decide) h
      have hascii := Text.toNat_lt_of_isDigit hdigit
      revert hdigit
      exact Text.forall_ascii (P := fun c => c.isDigit = true →
        c ∈ [':', '0', '1', '2', '3', '4', '5', '6', '7', '8', '9']) (by decide) hascii

theorem cutLastAt_of_not_mem {cs : List Char} (h : '@' ∉ cs) : cutLastAt cs = (none, cs) := by
  have hall : cs.reverse.takeWhile (· ≠ '@') = cs.reverse := by
    have hne : ∀ c ∈ cs.reverse, (decide (c ≠ '@')) = true := fun c hc =>
      decide_eq_true (ne_of_mem_of_not_mem (List.mem_reverse.mp hc) h)
    exact List.takeWhile_eq_self_iff.mpr hne
  unfold cutLastAt
  rw [hall, List.reverse_reverse]
  exact if_pos rfl

theorem readAuthority?_of_parts {scheme : String} {cs authority rest hostText path : List Char}
    {portText query fragment : Option (List Char)} {host : Host} {port : Option Nat}
    (htake : cs.takeWhile (!endsAuthority (isSpecial scheme) ·) = authority)
    (hdrop : cs.dropWhile (!endsAuthority (isSpecial scheme) ·) = rest)
    (hcut : cutLastAt authority = (none, authority))
    (hcutPort : cutPort false authority = (hostText, portText)) (hne : hostText ≠ [])
    (hbackslash : ∀ digits ∈ portText, '\\' ∉ digits)
    (hport : readPort? scheme (portText.getD []) = some port)
    (hhost : hostReader (isSpecial scheme) hostText = some host)
    (hpath : cutPath rest = (path, query, fragment)) :
    readAuthority? scheme cs = some
      { scheme
        host := some host
        port
        path := normalPath (isSpecial scheme) path
        query := query.map (percentEncodeChars (isQueryEncoded (isSpecial scheme)))
        fragment := fragment.map (percentEncodeChars isFragmentEncoded) } := by
  have hne : hostText.isEmpty = false := by simpa using hne
  -- Digits before no backslash are all of the port.
  have hdigits : ∀ digits ∈ portText,
      digits.takeWhile (· ≠ '\\') = digits ∧ digits.dropWhile (· ≠ '\\') = [] := by
    intro digits hmem
    have hall : ∀ c ∈ digits, (decide (c ≠ '\\')) = true := fun c hc =>
      decide_eq_true (ne_of_mem_of_not_mem hc (hbackslash digits hmem))
    exact ⟨List.takeWhile_eq_self_iff.mpr hall, List.dropWhile_eq_nil_iff.mpr hall⟩
  unfold readAuthority?
  dsimp only
  rw [htake, hdrop, hcut]
  dsimp only
  rw [hcutPort]
  unfold hostReader at hhost
  cases portText with
  | none =>
    rw [Option.getD_none] at hport
    cases hspecial : isSpecial scheme <;>
      simp only [hspecial, Bool.false_eq_true, if_false, if_true] at hhost <;>
      simp [readUserinfo_nil, hne, hport, hhost, hpath]
  | some digits =>
    obtain ⟨htakeDigits, hdropDigits⟩ := hdigits digits rfl
    rw [Option.getD_some] at hport
    dsimp only
    rw [htakeDigits, hdropDigits]
    cases hspecial : isSpecial scheme <;>
      simp only [hspecial, Bool.false_eq_true, if_false, if_true] at hhost <;>
      simp [readUserinfo_nil, hne, hport, hhost, hpath]

theorem clean_eq {s : String} (h : ∀ c ∈ s.toList, 0x20 < c.toNat) : clean s = s.toList := by
  have hedge {cs : List Char} (h : ∀ c ∈ cs, 0x20 < c.toNat) :
      cs.dropWhile (fun c => decide (c.toNat ≤ 0x20)) = cs := by
    cases cs with
    | nil => rfl
    | cons c cs =>
      have hc := h c List.mem_cons_self
      exact List.dropWhile_cons_of_neg (by simpa using hc)
  have hend : Text.dropEnd (fun c => decide (c.toNat ≤ 0x20)) s.toList = s.toList := by
    rw [Text.dropEnd, hedge fun c hc => h c (List.mem_reverse.mp hc), List.reverse_reverse]
  unfold clean
  dsimp only
  rw [hedge h, hend, List.filter_eq_self]
  intro c hc
  have hvisible := h c hc
  have hne (mark : Char) (hmark : mark.toNat ≤ 0x20) : c ≠ mark := by
    rintro rfl
    omega
  simp [hne '\t' (by decide), hne '\n' (by decide), hne '\r' (by decide)]

namespace IsNormal

variable {url : Url} {host : Host} (h : url.IsNormal host)

include h

theorem withoutCredentials : url.withoutCredentials.IsNormal host :=
  ⟨h.scheme, h.notFile, h.hasHost, h.notEmpty, h.hostRead, h.port, h.tail.path, h.tail.query,
    h.tail.fragment⟩

theorem toList_text (hcredentials : url.hasCredentials = false) : url.text.toList =
    url.scheme.toList ++ ':' :: '/' :: '/' ::
      (host.text.toList ++ portPart (url.port.map (Nat.toDigits 10)) ++ url.afterAuthority) := by
  obtain ⟨husername, hpassword⟩ := Bool.or_eq_false_iff.mp hcredentials
  have huserinfo : url.userinfo = "" := by
    rw [userinfo, Option.isSome_eq_false_iff.mp hpassword |> Option.isNone_iff_eq_none.mp]
    exact if_pos (by simpa using husername)
  unfold text afterAuthority
  rw [h.hasHost, huserinfo]
  cases url.port <;> cases url.query <;> cases url.fragment <;>
    simp [portPart, markedPart, Text.decimal]

theorem toList_hostText_ne_nil : host.text.toList ≠ [] := by
  have hne := h.notEmpty
  cases host with
  | name text => simpa [Host.text] using hne
  | ipv4 n => exact dotted_ne_nil n
  | ipv6 groups => simp [Host.text]

theorem not_mem_authority {c : Char} (hc : c ∈ ['/', '\\', '?', '#', '@']) :
    c ∉ host.text.toList ++ portPart (url.port.map (Nat.toDigits 10)) := by
  rw [List.mem_append, not_or]
  refine ⟨h.hostRead.text.not_mem hc, fun hmem => ?_⟩
  have hmark : c ∉ ['/', '\\', '?', '#', '@'] :=
    Text.forall_mem_of_all (P := (· ∉ ['/', '\\', '?', '#', '@'])) (by decide) c
      (of_mem_portPart hmem)
  exact hmark hc

theorem parts_eq (hcredentials : url.hasCredentials = false) :
    { scheme := url.scheme
      username := ""
      password := none
      host := some host
      port := url.port
      path := normalPath (isSpecial url.scheme) url.path.toList
      query := (url.query.map String.toList).map
        (percentEncodeChars (isQueryEncoded (isSpecial url.scheme)))
      fragment := (url.fragment.map String.toList).map (percentEncodeChars isFragmentEncoded) } =
    url := by
  have hencoded {encode : UInt8 → Bool} (hencode : IsEncoding encode) {part : Option String}
      (hpart : ∀ text ∈ part, ∀ c ∈ text.toList, IsWritten encode c) :
      (part.map String.toList).map (percentEncodeChars encode) = part := by
    cases part with
    | none => rfl
    | some text =>
      rw [Option.map_some, Option.map_some, percentEncodeChars_eq_self hencode (hpart text rfl),
        String.ofList_toList]
  obtain ⟨husername, hpassword⟩ := Bool.or_eq_false_iff.mp hcredentials
  have husername : url.username = "" := by simpa using husername
  have hpassword : url.password = none := by simpa using hpassword
  rw [h.tail.path.normalPath_eq_self, String.ofList_toList,
    hencoded (isEncoding_query _) h.tail.query, hencoded isEncoding_fragment h.tail.fragment,
    ← h.hasHost, ← husername, ← hpassword]

theorem readAuthority?_text (hcredentials : url.hasCredentials = false) :
    readAuthority? url.scheme
      (host.text.toList ++ portPart (url.port.map (Nat.toDigits 10)) ++ url.afterAuthority) =
        some url := by
  have hauthority : ∀ c ∈ host.text.toList ++ portPart (url.port.map (Nat.toDigits 10)),
      (!endsAuthority (isSpecial url.scheme) c) = true := by
    intro c hc
    have hne (mark : Char) (hmark : mark ∈ ['/', '\\', '?', '#', '@']) : c ≠ mark :=
      fun heq => h.not_mem_authority hmark (heq ▸ hc)
    simp [endsAuthority, hne '/', hne '\\', hne '?', hne '#']
  have hafter : ∀ c ∈ url.afterAuthority.head?, (!endsAuthority (isSpecial url.scheme) c) = false :=
    fun c hc => by simp [h.tail.head?_afterAuthority _ c hc]
  have htake := Text.takeWhile_append_stop hauthority hafter
  have hdrop : (host.text.toList ++ portPart (url.port.map (Nat.toDigits 10)) ++
      url.afterAuthority).dropWhile (!endsAuthority (isSpecial url.scheme) ·) =
        url.afterAuthority := by
    rw [← Text.drop_takeWhile, htake, List.drop_left]
  have hcut := cutLastAt_of_not_mem (h.not_mem_authority (c := '@') (by decide))
  have hcutPort := h.hostRead.text.cutPort_append_portPart (url.port.map (Nat.toDigits 10))
  have hbackslash : ∀ digits ∈ url.port.map (Nat.toDigits 10), '\\' ∉ digits := by
    intro digits hdigits hmem
    refine h.not_mem_authority (c := '\\') (by decide) (List.mem_append_right _ ?_)
    rw [Option.mem_def.mp hdigits]
    exact List.mem_cons_of_mem _ hmem
  rw [readAuthority?_of_parts htake hdrop hcut hcutPort h.toList_hostText_ne_nil hbackslash
    (readPort?_toDigits h.port) h.hostRead.again h.tail.cutPath_afterAuthority]
  exact congrArg some (h.parts_eq hcredentials)

theorem visible_text (hcredentials : url.hasCredentials = false) :
    ∀ c ∈ url.text.toList, 0x20 < c.toNat := by
  have hscheme : ∀ c ∈ url.scheme.toList, 0x20 < c.toNat := by
    intro c hc
    have hchar := h.scheme.chars c hc
    have hascii := toNat_lt_of_isSchemeChar hchar
    revert hchar
    exact Text.forall_ascii (P := fun c => isSchemeChar c = true → 0x20 < c.toNat) (by decide) hascii
  have hport : ∀ c ∈ portPart (url.port.map (Nat.toDigits 10)), 0x20 < c.toNat := fun c hc =>
    Text.forall_mem_of_all (P := (0x20 < ·.toNat)) (by decide) c (of_mem_portPart hc)
  rw [h.toList_text hcredentials]
  simp only [List.forall_mem_append, List.forall_mem_cons]
  exact ⟨hscheme, by decide, by decide, by decide, ⟨h.hostRead.text.visible, hport⟩,
    h.tail.visible⟩

/-- The text of a URL in normal form without credentials is read as the same URL. -/
theorem parse?_text (hcredentials : url.hasCredentials = false) : parse? url.text = some url := by
  have hread := h.readAuthority?_text hcredentials
  have hslashes : ('/' :: '/' :: (host.text.toList ++ portPart (url.port.map (Nat.toDigits 10)) ++
      url.afterAuthority)).dropWhile (fun c => c = '/' || c = '\\') =
        host.text.toList ++ portPart (url.port.map (Nat.toDigits 10)) ++ url.afterAuthority := by
    obtain ⟨first, later, htext⟩ := List.exists_cons_of_ne_nil h.toList_hostText_ne_nil
    have hfirst (mark : Char) (hmark : mark ∈ ['/', '\\', '?', '#', '@']) : first ≠ mark := by
      rintro rfl
      exact h.hostRead.text.not_mem hmark (htext ▸ List.mem_cons_self)
    rw [htext]
    simp [hfirst '/', hfirst '\\']
  unfold parse?
  rw [clean_eq (h.visible_text hcredentials), h.toList_text hcredentials,
    readScheme?_append h.scheme, Option.bind_some, String.ofList_toList]
  dsimp only
  rw [if_neg h.notFile]
  split
  · rw [hslashes]
    exact hread
  · exact hread

end IsNormal

end RequestTracing.Url
