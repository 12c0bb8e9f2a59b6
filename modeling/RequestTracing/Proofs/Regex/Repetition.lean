import RequestTracing.Regex.Parser
/-!
Repetitions that may be of nothing. They match in every text, since each place that a match may
start at is one that it may end at.
-/
namespace RequestTracing.Regex

/-- Whether a step leaves the number of marks alone, of which there is one a place. -/
def KeepsLength (places : Nat) (step : Marks → Marks) : Prop :=
  ∀ marks, marks.length = places → (step marks).length = places

theorem length_advance (test : Char → Bool) (marked : Bool) (ps : List Place) (marks : Marks)
    (h : marks.length = ps.length) : (advance test marked ps marks).length = ps.length := by
  induction ps generalizing marked marks with
  | nil => rfl
  | cons p ps ih =>
    cases marks with
    | nil => simp at h
    | cons m marks => simpa [advance] using ih (m && p.after.any test) marks (by simpa using h)

variable {places : Nat} {step : Marks → Marks}

theorem KeepsLength.times (h : KeepsLength places step) (n : Nat) :
    KeepsLength places (times step n) := by
  induction n with
  | zero => exact fun _ hmarks => hmarks
  | succ n ih =>
    intro marks hmarks
    rw [Regex.times]
    split
    · exact ih _ (h marks hmarks)
    · exact hmarks

theorem KeepsLength.upTo (h : KeepsLength places step) (n : Nat) :
    KeepsLength places (upTo step n) := by
  induction n with
  | zero => exact fun _ hmarks => hmarks
  | succ n ih =>
    intro marks hmarks
    exact ih _ (by simp [h marks hmarks, hmarks])

theorem keepsLength_follow (ps : List Place) (r : Regex) : KeepsLength ps.length (follow ps r) := by
  induction r with
  | empty => exact fun _ hmarks => hmarks
  | one cls => exact length_advance cls.test false ps
  | look condition =>
    intro marks hmarks
    simp [follow, hmarks]
  | seq first second hfirst hsecond => exact fun marks hmarks => hsecond _ (hfirst marks hmarks)
  | alt first second hfirst hsecond =>
    intro marks hmarks
    simp [follow, hfirst marks hmarks, hsecond marks hmarks]
  | repeated body least most hbody =>
    exact fun marks hmarks => hbody.upTo _ _ (hbody.times least marks hmarks)

theorem KeepsLength.any_upTo (h : KeepsLength places step) (n : Nat) {marks : Marks}
    (hmarks : marks.length = places) (hany : marks.any id = true) :
    (Regex.upTo step n marks).any id = true := by
  induction n generalizing marks with
  | zero => exact hany
  | succ n ih =>
    have hlength : marks.length = (step marks).length := hmarks.trans (h marks hmarks).symm
    apply ih
    · simp [hmarks, h marks hmarks]
    · obtain ⟨m, hm, htrue⟩ := List.any_eq_true.mp hany
      obtain ⟨i, hi, rfl⟩ := List.mem_iff_getElem.mp hm
      refine List.any_eq_true.mpr ⟨_, List.getElem_mem (by simpa [← hlength] using hi), ?_⟩
      simp_all

theorem isMatch_repeated (body : Regex) (most : Option Nat) (text : String) :
    (Regex.repeated body 0 most).isMatch text = true := by
  let ps := Regex.places none text.toList
  have hany : (ps.map fun _ => true).any id = true := by
    cases hcs : text.toList <;> simp [ps, Regex.places, hcs]
  exact (keepsLength_follow ps body).any_upTo _ (List.length_map _) hany

end RequestTracing.Regex
