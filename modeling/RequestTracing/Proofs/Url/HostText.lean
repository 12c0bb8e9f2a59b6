import RequestTracing.Proofs.Text.PercentDecoding
import RequestTracing.Proofs.Url.Address
import RequestTracing.Proofs.Url.Domain
import RequestTracing.Proofs.Url.Encoded
import RequestTracing.Url.Parser
/-!
Hosts of URLs as they are written. A host that was read is read again from its text, and its text
has no character that could end it.
-/
namespace RequestTracing.Url

theorem fromUTF8?_utf8Bytes (cs : List Char) :
    String.fromUTF8? ⟨(cs.flatMap Text.utf8Bytes).toArray⟩ = some (String.ofList cs) := by
  have hbytes : (⟨(cs.flatMap Text.utf8Bytes).toArray⟩ : ByteArray) = cs.utf8Encode := by
    ext1
    rw [List.utf8Encode, List.data_toByteArray]
    rfl
  rw [hbytes]
  exact dif_pos ByteArray.isValidUTF8_utf8Encode

/-! ## What hosts are written with -/

/-- The texts of hosts: those of domain names, opaque hosts and addresses of version 4, and
addresses of version 6 in brackets. -/
inductive IsHostText : List Char → Prop
  | plain {cs : List Char} (h : ∀ c ∈ cs, 0x20 < c.toNat ∧ isForbiddenInOpaque c = false) :
      IsHostText cs
  | bracketed {cs : List Char} (h : ∀ c ∈ cs, c = ':' ∨ (Text.hexDigit? c).isSome = true) :
      IsHostText ('[' :: (cs ++ [']']))

theorem ne_of_hexDigit? {c : Char} (h : c = ':' ∨ (Text.hexDigit? c).isSome = true) :
    0x20 < c.toNat ∧ c ∉ ['/', '\\', '?', '#', '@', '[', ']'] := by
  have hascii : c.toNat < 0x80 := by
    rcases h with rfl | h
    · decide
    · obtain ⟨d, hd⟩ := Option.isSome_iff_exists.mp h
      exact Text.toNat_lt_of_hexDigit? hd
  revert h
  refine Text.forall_ascii (P := fun c => c = ':' ∨ (Text.hexDigit? c).isSome = true →
    0x20 < c.toNat ∧ c ∉ ['/', '\\', '?', '#', '@', '[', ']']) ?_ hascii
  decide

/-- A host is followed by nothing, or by a colon and a port. -/
def portPart (port : Option (List Char)) : List Char :=
  match port with
  | some port => ':' :: port
  | none => []

theorem cutPort_append {inside : Bool} {cs : List Char} (hbracket : ∀ c ∈ cs, c ∉ ['[', ']'])
    (hcolon : inside = true ∨ ':' ∉ cs) (rest : List Char) :
    cutPort inside (cs ++ rest) = (cs ++ (cutPort inside rest).1, (cutPort inside rest).2) := by
  induction cs with
  | nil => rfl
  | cons c cs ih =>
    obtain ⟨hc, hcs⟩ := List.forall_mem_cons.mp hbracket
    simp only [List.mem_cons, List.not_mem_nil, or_false, not_or] at hc
    have hstay : ¬(decide (c = ':') && !inside) = true := by
      rcases hcolon with rfl | hcolon
      · simp
      · have hc : c ≠ ':' := fun heq => hcolon (heq ▸ List.mem_cons_self)
        simp [hc]
    have hnext : inside = true ∨ ':' ∉ cs :=
      hcolon.imp_right fun hmem h => hmem (List.mem_cons_of_mem c h)
    rw [List.cons_append, cutPort, if_neg hstay, if_neg hc.1, if_neg hc.2]
    simp [ih hcs hnext]

theorem cutPort_portPart (port : Option (List Char)) : cutPort false (portPart port) = ([], port) := by
  cases port <;> rfl

namespace IsHostText

variable {cs : List Char} (h : IsHostText cs)

include h

theorem visible : ∀ c ∈ cs, 0x20 < c.toNat := by
  cases h with
  | plain h => exact fun c hc => (h c hc).1
  | bracketed h =>
    intro c hc
    rcases List.mem_cons.mp hc with rfl | hc
    · decide
    · rcases List.mem_append.mp hc with hc | hc
      · exact (ne_of_hexDigit? (h c hc)).1
      · rw [List.mem_singleton.mp hc]
        decide

theorem not_mem {c : Char} (hc : c ∈ ['/', '\\', '?', '#', '@']) : c ∉ cs := by
  cases h with
  | plain h =>
    intro hmem
    have hforbidden : isForbiddenInOpaque c = true :=
      Text.forall_mem_of_all (P := (isForbiddenInOpaque · = true)) (by decide) c hc
    rw [(h c hmem).2] at hforbidden
    cases hforbidden
  | @bracketed inner h =>
    intro hmem
    have hbracket : c ≠ '[' ∧ c ≠ ']' :=
      Text.forall_mem_of_all (P := fun c => c ≠ '[' ∧ c ≠ ']') (by decide) c hc
    simp only [List.mem_cons, List.mem_append, hbracket, List.not_mem_nil, or_false,
      false_or] at hmem
    refine (ne_of_hexDigit? (h c hmem)).2 ?_
    exact List.mem_append_left ['[', ']'] hc

theorem cutPort_append_portPart (port : Option (List Char)) :
    cutPort false (cs ++ portPart port) = (cs, port) := by
  cases h with
  | plain h =>
    have hmark {c : Char} (hc : c ∈ cs) : c ∉ [':', '[', ']'] := by
      intro hmem
      have hforbidden : isForbiddenInOpaque c = true :=
        Text.forall_mem_of_all (P := (isForbiddenInOpaque · = true)) (by decide) c hmem
      rw [(h c hc).2] at hforbidden
      cases hforbidden
    have hbracket : ∀ c ∈ cs, c ∉ ['[', ']'] := fun c hc hmem =>
      hmark hc (List.mem_cons_of_mem ':' hmem)
    have hcolon : ':' ∉ cs := fun hmem => hmark hmem List.mem_cons_self
    rw [cutPort_append hbracket (.inr hcolon), cutPort_portPart, List.append_nil]
  | @bracketed inner h =>
    have hinside : ∀ c ∈ inner, c ∉ ['[', ']'] := fun c hc hmem =>
      (ne_of_hexDigit? (h c hc)).2 (List.mem_append_right ['/', '\\', '?', '#', '@'] hmem)
    have hclose : cutPort true (']' :: portPart port) = ([']'], port) := by
      rw [cutPort]
      simp [cutPort_portPart]
    rw [List.cons_append, List.append_assoc, cutPort]
    simp [cutPort_append hinside (.inl rfl), hclose]

end IsHostText

/-! ## Hosts that are read again -/

/-- What is known of a host that was read: it is read from its text as well. -/
structure IsReadHost (read : List Char → Option Host) (host : Host) : Prop where
  text : IsHostText host.text.toList
  again : read host.text.toList = some host

theorem isReadHost_ipv6 {cs : List Char} {groups : List Nat} (h : readIpv6? cs = some groups) :
    IsReadHost readHost? (.ipv6 groups) ∧ IsReadHost readOpaqueHost? (.ipv6 groups) := by
  obtain ⟨hlength, hgroups⟩ := of_readIpv6? h
  have htext : (Host.ipv6 groups).text.toList = '[' :: ((Ipv6.text groups).toList ++ [']']) := by
    simp [Host.text]
  have hshape : IsHostText (Host.ipv6 groups).text.toList :=
    htext ▸ .bracketed fun c hc => of_mem_ipv6Text hc
  have hread := readIpv6?_text hlength hgroups
  constructor
  · exact ⟨hshape, by simp [htext, readHost?, hread]⟩
  · exact ⟨hshape, by simp [htext, readOpaqueHost?, hread]⟩

theorem readHost?_domain {cs : List Char}
    (hallowed : ∀ c ∈ cs, c.toNat < 0x80 ∧ isForbiddenInDomain c = false)
    (hself : domainToAscii? cs = some cs) (hne : cs ≠ []) :
    readHost? cs = if endsInNumber cs then (readIpv4? cs).map .ipv4
      else some (.name (.ofList cs)) := by
  have hsign : '%' ∉ cs := fun hmem => absurd (hallowed '%' hmem).2 (by decide)
  have hplain : ¬Text.HasTriplet cs := fun htriplet => hsign htriplet.mem
  rw [readHost?, Text.percentDecode_eq_flatMap hplain, fromUTF8?_utf8Bytes]
  · simp [hself, hne]
  · rintro inner rfl
    exact absurd (hallowed '[' List.mem_cons_self).2 (by decide)

theorem isHostText_domain {cs : List Char}
    (h : ∀ c ∈ cs, isForbiddenInDomain c = false) : IsHostText cs := by
  refine .plain fun c hc => ?_
  have hallowed := h c hc
  constructor
  · simp only [isForbiddenInDomain, Bool.or_eq_false_iff, decide_eq_false_iff_not,
      Nat.not_le] at hallowed
    exact hallowed.1.1
  · rw [Bool.eq_false_iff]
    intro hforbidden
    have hall : ∀ c ∈ [Char.ofNat 0, '\t', '\n', '\r', ' ', '#', '/', ':', '<', '>', '?', '@', '[',
        '\\', ']', '^', '|'], isForbiddenInDomain c = true :=
      Text.forall_mem_of_all (by decide)
    rw [hall c (List.contains_iff_mem.mp hforbidden)] at hallowed
    cases hallowed

theorem isReadHost_of_readHost? {cs : List Char} {host : Host} (h : readHost? cs = some host) :
    IsReadHost readHost? host ∧ host ≠ .name "" := by
  unfold readHost? at h
  split at h
  · split at h
    · obtain ⟨groups, hgroups, rfl⟩ := Option.map_eq_some_iff.mp h
      exact ⟨(isReadHost_ipv6 hgroups).1, Host.noConfusion⟩
    · cases h
  · obtain ⟨decoded, -, h⟩ := Option.bind_eq_some_iff.mp h
    obtain ⟨domain, hdomain, h⟩ := Option.bind_eq_some_iff.mp h
    have hallowed : ∀ c ∈ domain, c.toNat < 0x80 ∧ isForbiddenInDomain c = false :=
      fun c hc => of_mem_domain hdomain hc
    split at h
    · cases h
    · rename_i hne
      have hne : domain ≠ [] := by simpa using hne
      split at h
      · obtain ⟨n, hn, rfl⟩ := Option.map_eq_some_iff.mp h
        have hread := readHost?_domain (fun c hc => of_mem_domain (domainToAscii?_dotted n) hc)
          (domainToAscii?_dotted n) (dotted_ne_nil n)
        rw [if_pos (endsInNumber_dotted n), readIpv4?_dotted (readIpv4?_lt hn)] at hread
        refine ⟨⟨isHostText_domain fun c hc => ?_, hread⟩, Host.noConfusion⟩
        exact (of_mem_domain (domainToAscii?_dotted n) hc).2
      · rename_i hnumber
        obtain rfl := Option.some.inj h
        have hread := readHost?_domain hallowed (domainToAscii?_domain hdomain) hne
        rw [if_neg hnumber] at hread
        refine ⟨⟨?_, ?_⟩, ?_⟩
        · simpa [Host.text] using isHostText_domain fun c hc => (hallowed c hc).2
        · simpa [Host.text] using hread
        · simpa using hne

theorem isReadHost_of_readOpaqueHost? {cs : List Char} {host : Host}
    (h : readOpaqueHost? cs = some host) :
    IsReadHost readOpaqueHost? host ∧ (cs ≠ [] → host ≠ .name "") := by
  unfold readOpaqueHost? at h
  split at h
  · split at h
    · obtain ⟨groups, hgroups, rfl⟩ := Option.map_eq_some_iff.mp h
      exact ⟨(isReadHost_ipv6 hgroups).2, fun _ => Host.noConfusion⟩
    · cases h
  · split at h
    · cases h
    · rename_i hallowed
      obtain rfl := Option.some.inj h
      have hchars : ∀ c ∈ (percentEncodeChars isControlByte cs).toList,
          IsWritten isControlByte c ∧ isForbiddenInOpaque c = false := by
        intro c hc
        obtain ⟨hwritten, hmem⟩ := of_mem_percentEncodeChars isEncoding_control hc
        refine ⟨hwritten, ?_⟩
        rcases hmem with hmem | hmem
        · exact Bool.not_eq_true _ ▸ List.any_eq_false.mp (Bool.not_eq_true _ ▸ hallowed) c hmem
        · exact Text.forall_mem_of_all (P := (isForbiddenInOpaque · = false)) (by decide) c hmem
      have hvisible : ∀ c ∈ (percentEncodeChars isControlByte cs).toList,
          0x20 < c.toNat ∧ isForbiddenInOpaque c = false := by
        intro c hc
        obtain ⟨hwritten, hallowed⟩ := hchars c hc
        refine ⟨?_, hallowed⟩
        revert hallowed hwritten
        refine Text.forall_ascii (P := fun c => IsWritten isControlByte c →
          isForbiddenInOpaque c = false → 0x20 < c.toNat) (by decide) (hchars c hc).1.1
      refine ⟨⟨.plain hvisible, ?_⟩, fun hne heq => ?_⟩
      · rw [Host.text, readOpaqueHost?]
        · rw [if_neg, percentEncodeChars_toList isEncoding_control]
          rw [Bool.not_eq_true, List.any_eq_false]
          exact fun c hc => by simp [(hchars c hc).2]
        · intro inner heq
          have hbracket := (hchars '[' (heq ▸ List.mem_cons_self)).2
          exact absurd hbracket (by decide)
      · exact percentEncodeChars_ne_empty isEncoding_control hne (Host.name.inj heq)

end RequestTracing.Url
