import Mathlib.Data.List.TakeWhile
import RequestTracing.Http.Uri
import RequestTracing.Proofs.Text.ReadBack
/-!
Host and port of an authority without a user, when they are written again. The host is the same, and
so is the port that is in effect.
-/
namespace RequestTracing.Http

def Uri.host (uri : Uri) : String :=
  authorityHost (uri.authority.getD "")

/-- The port in a URL, or else that which its scheme implies. -/
def Uri.effectivePort (uri : Uri) : Nat :=
  (authorityPort? (uri.authority.getD "")).getD uri.impliedPort

/-- The port after a colon, unless it is implied. -/
def portText (implied port : Nat) : List Char :=
  if port = implied then [] else ':' :: Nat.toDigits 10 port

/-- The host at the start of a text. -/
def hostChars (cs : List Char) : List Char :=
  match cs with
  | '[' :: _ => cs.takeWhile (· ≠ ']') ++ [']']
  | _ => cs.takeWhile (· ≠ ':')

theorem hostChars_bracket (cs : List Char) :
    hostChars ('[' :: cs) = '[' :: cs.takeWhile (· ≠ ']') ++ [']'] := rfl

theorem hostChars_of_ne {cs : List Char} (h : ∀ c ∈ cs.head?, c ≠ '[') :
    hostChars cs = cs.takeWhile (· ≠ ':') := by
  unfold hostChars
  split
  · exact absurd rfl (h '[' rfl)
  · rfl

theorem authorityHost_eq {authority : String} (h : '@' ∉ authority.toList) :
    authorityHost authority = .ofList (hostChars authority.toList) := by
  have hall : (authority.toList.reverse.takeWhile (· ≠ '@')).reverse = authority.toList := by
    rw [List.takeWhile_eq_self_iff.mpr, List.reverse_reverse]
    intro c hc
    have hne : c ≠ '@' := fun heq => h (heq ▸ List.mem_reverse.mp hc)
    simpa using hne
  unfold authorityHost
  simp only [hall]
  split
  · rename_i hbracket
    rw [hbracket]
    rfl
  · rename_i hbracket
    rw [hostChars_of_ne]
    rintro c hc rfl
    obtain ⟨rest, hrest⟩ := List.head?_eq_some_iff.mp hc
    exact hbracket rest hrest

theorem mem_hostChars {cs : List Char} {c : Char} (h : c ∈ hostChars cs) : c ∈ cs ∨ c = ']' := by
  unfold hostChars at h
  split at h
  · rcases List.mem_append.mp h with h | h
    · exact .inl ((List.takeWhile_sublist _).mem h)
    · exact .inr (List.mem_singleton.mp h)
  · exact .inl ((List.takeWhile_sublist _).mem h)

theorem mem_portText {implied port : Nat} {c : Char} (h : c ∈ portText implied port) :
    c = ':' ∨ c.isDigit = true := by
  unfold portText at h
  split at h
  · cases h
  · rcases List.mem_cons.mp h with h | h
    · exact .inl h
    · exact .inr (Nat.isDigit_of_mem_toDigits (by decide) (by decide) h)

theorem head?_portText (implied port : Nat) : ∀ c ∈ (portText implied port).head?, c = ':' := by
  unfold portText
  split <;> simp

/-- A host stands between brackets, or it has neither a bracket in front nor a colon. -/
theorem hostChars_cases (cs : List Char) :
    (∃ host, hostChars cs = '[' :: host ++ [']'] ∧ ']' ∉ host) ∨
      ':' ∉ hostChars cs ∧ ∀ c ∈ (hostChars cs).head?, c ≠ '[' := by
  by_cases hbracket : ∃ rest, cs = '[' :: rest
  · obtain ⟨rest, rfl⟩ := hbracket
    refine .inl ⟨rest.takeWhile (· ≠ ']'), hostChars_bracket rest, fun hmem => ?_⟩
    exact absurd (List.mem_takeWhile_imp hmem) (by decide)
  · have hhead : ∀ c ∈ cs.head?, c ≠ '[' := by
      rintro c hc rfl
      exact hbracket (List.head?_eq_some_iff.mp hc)
    rw [hostChars_of_ne hhead]
    refine .inr ⟨fun hmem => absurd (List.mem_takeWhile_imp hmem) (by decide), fun c hc => ?_⟩
    rw [List.head?_takeWhile, Option.mem_def, Option.filter_eq_some_iff] at hc
    exact hhead c hc.1

theorem hostChars_append_portText (cs : List Char) (implied port : Nat) :
    hostChars (hostChars cs ++ portText implied port) = hostChars cs := by
  have hstop := head?_portText implied port
  rcases hostChars_cases cs with ⟨host, hhost, hbracket⟩ | ⟨hcolon, hhead⟩
  · rw [hhost, List.append_assoc, List.cons_append, hostChars_bracket, Text.takeWhile_append_stop]
    · intro c hc
      have hne : c ≠ ']' := fun heq => hbracket (heq ▸ hc)
      simpa using hne
    · simp
  · rw [hostChars_of_ne, Text.takeWhile_append_stop]
    · intro c hc
      have hne : c ≠ ':' := fun heq => hcolon (heq ▸ hc)
      simpa using hne
    · exact fun c hc => by simp [hstop c hc]
    · intro c hc
      rw [List.head?_append, Option.mem_def, Option.or_eq_some_iff] at hc
      rcases hc with hc | ⟨_, hc⟩
      · exact hhead c hc
      · rw [hstop c hc]
        decide

theorem authorityPort?_lt {authority : String} {port : Nat}
    (h : authorityPort? authority = some port) : port < 65536 := by
  simp only [authorityPort?] at h
  split at h
  · unfold Text.readNatBelow? at h
    split at h <;> simpa using (Option.filter_eq_some_iff.mp h).2
  · cases h

/-- After a colon the port is read, and a host alone has none. -/
theorem authorityPort?_hostChars (cs : List Char) {implied port : Nat} (hport : port < 65536) :
    authorityPort? (.ofList (hostChars cs ++ portText implied port)) =
      if port = implied then none else some port := by
  simp only [authorityPort?, String.toList_ofList, List.contains_iff_mem]
  by_cases himplied : port = implied
  · rw [if_pos himplied, portText, if_pos himplied, List.append_nil]
    rcases hostChars_cases cs with ⟨host, hhost, _⟩ | ⟨hcolon, _⟩
    · have hlast : ']' ∈ ((hostChars cs).reverse.takeWhile (· ≠ ':')).reverse := by simp [hhost]
      rw [Text.readNatBelow?_eq_none hlast (by decide) (by decide), ite_self]
    · rw [if_neg hcolon]
  · have hdigits : ∀ c ∈ Nat.toDigits 10 port, c.isDigit = true :=
      fun c hc => Nat.isDigit_of_mem_toDigits (by decide) (by decide) hc
    have hlast : ((hostChars cs ++ ':' :: Nat.toDigits 10 port).reverse.takeWhile
        (· ≠ ':')).reverse = Nat.toDigits 10 port := by
      rw [List.reverse_append, List.reverse_cons, List.append_assoc,
        Text.takeWhile_append_stop, List.reverse_reverse]
      · intro c hc
        have hne : c ≠ ':' := by
          rintro rfl
          exact absurd (hdigits ':' (List.mem_reverse.mp hc)) (by decide)
        simpa using hne
      · simp
    rw [if_neg himplied, portText, if_neg himplied, if_pos (by simp), hlast]
    unfold Text.readNatBelow?
    split
    · rename_i rest hsign
      exact absurd (hdigits '+' (by rw [hsign]; exact List.mem_cons_self)) (by decide)
    · rw [Text.readDigits?_toDigits]
      simp [hport]

end RequestTracing.Http
