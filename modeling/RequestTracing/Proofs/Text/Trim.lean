import Mathlib.Data.List.DropRight
import RequestTracing.Proofs.Text.ReadBack
/-!
White space around texts. What is left of a text without it is the one part that has no white space
at its ends and nothing but white space around it.
-/
namespace RequestTracing.Text

def IsBlankText (cs : List Char) : Prop :=
  ∀ c ∈ cs, isBlank c = true

/-- Whether a text has no white space at its ends. -/
def IsTrimmed (cs : List Char) : Prop :=
  (∀ c ∈ cs.head?, isBlank c = false) ∧ ∀ c ∈ cs.getLast?, isBlank c = false

instance (cs : List Char) : Decidable (IsBlankText cs) :=
  decidable_of_iff (cs.all isBlank = true) List.all_eq_true

instance (cs : List Char) : Decidable (IsTrimmed cs) :=
  decidable_of_iff ((cs.head?.all fun c => !isBlank c) = true ∧
    (cs.getLast?.all fun c => !isBlank c) = true) (by simp [IsTrimmed, Option.all_eq_true])

variable {cs trimmed : List Char}

theorem dropWhile_isBlank_append {before rest : List Char} (hbefore : IsBlankText before)
    (hrest : ∀ c ∈ rest.head?, isBlank c = false) :
    (before ++ rest).dropWhile isBlank = rest := by
  rw [List.dropWhile_append_of_pos hbefore]
  cases rest with
  | nil => rfl
  | cons c rest => rw [List.dropWhile_cons_of_neg (by simp [hrest c rfl])]

theorem dropEnd_append {rest after : List Char} (hafter : IsBlankText after)
    (hrest : ∀ c ∈ rest.getLast?, isBlank c = false) : dropEnd isBlank (rest ++ after) = rest := by
  have hreverse : ∀ c ∈ rest.reverse.head?, isBlank c = false := by
    rwa [List.head?_reverse]
  rw [dropEnd, List.reverse_append,
    dropWhile_isBlank_append (fun c hc => hafter c (List.mem_reverse.mp hc)) hreverse,
    List.reverse_reverse]

theorem isTrimmed_trimChars (cs : List Char) : IsTrimmed (trimChars cs) := by
  constructor
  · intro c hc
    obtain ⟨rest, hrest⟩ := List.rdropWhile_prefix isBlank (cs.dropWhile isBlank)
    refine head?_dropWhile isBlank cs c ?_
    have hhead : (trimChars cs ++ rest).head? = some c := by
      rw [List.head?_append, Option.mem_def.mp hc]
      rfl
    rw [← hrest]
    exact hhead
  · intro c hc
    refine head?_dropWhile isBlank (cs.dropWhile isBlank).reverse c ?_
    rw [trimChars, dropEnd, List.getLast?_reverse] at hc
    exact hc

/-- A text is white space, what is left without it, and white space. -/
theorem exists_blank_around (cs : List Char) : ∃ before after,
    IsBlankText before ∧ IsBlankText after ∧ cs = before ++ trimChars cs ++ after := by
  refine ⟨cs.takeWhile isBlank, (cs.dropWhile isBlank).rtakeWhile isBlank,
    fun c hc => ?_, fun c hc => List.mem_rtakeWhile_imp hc, ?_⟩
  · exact List.all_eq_true.mp List.all_takeWhile c hc
  · have hend : trimChars cs ++ (cs.dropWhile isBlank).rtakeWhile isBlank = cs.dropWhile isBlank :=
      List.rdropWhile_append_rtakeWhile
    rw [List.append_assoc, hend, List.takeWhile_append_dropWhile]

theorem trimChars_append {before after : List Char} (hbefore : IsBlankText before)
    (hafter : IsBlankText after) (h : IsTrimmed trimmed) :
    trimChars (before ++ trimmed ++ after) = trimmed := by
  unfold trimChars
  cases trimmed with
  | nil =>
    have hblank : IsBlankText (before ++ [] ++ after) := by
      rw [List.append_nil]
      exact fun c hc => (List.mem_append.mp hc).elim (hbefore c) (hafter c)
    rw [List.dropWhile_eq_nil_iff.mpr hblank]
    rfl
  | cons c rest =>
    have hstart : (before ++ (c :: rest ++ after)).dropWhile isBlank = c :: rest ++ after :=
      dropWhile_isBlank_append hbefore h.1
    rw [List.append_assoc, hstart, dropEnd_append hafter h.2]

/-- What is left of a text without white space around it is told by having none at its ends. -/
theorem trimChars_eq_iff : trimChars cs = trimmed ↔ IsTrimmed trimmed ∧ ∃ before after,
    IsBlankText before ∧ IsBlankText after ∧ cs = before ++ trimmed ++ after := by
  constructor
  · rintro rfl
    exact ⟨isTrimmed_trimChars cs, exists_blank_around cs⟩
  · rintro ⟨htrimmed, before, after, hbefore, hafter, rfl⟩
    exact trimChars_append hbefore hafter htrimmed

theorem trimChars_eq_self_iff : trimChars cs = cs ↔ IsTrimmed cs := by
  constructor
  · intro h
    exact h ▸ isTrimmed_trimChars cs
  · intro h
    exact trimChars_eq_iff.mpr ⟨h, [], [], List.forall_mem_nil _, List.forall_mem_nil _, by simp⟩

theorem trimChars_eq_nil_iff : trimChars cs = [] ↔ IsBlankText cs := by
  constructor
  · intro h
    obtain ⟨before, after, hbefore, hafter, hcs⟩ := exists_blank_around cs
    rw [h, List.append_nil] at hcs
    rw [hcs]
    exact fun c hc => (List.mem_append.mp hc).elim (hbefore c) (hafter c)
  · intro h
    refine trimChars_eq_iff.mpr ⟨⟨nofun, nofun⟩, cs, [], h, List.forall_mem_nil _, by simp⟩

theorem trim_eq_empty_iff {s : String} : trim s = "" ↔ IsBlankText s.toList := by
  rw [trim, String.ofList_eq_empty_iff, trimChars_eq_nil_iff]

/-- Without the white space around it a text is shorter, unless there is none. -/
theorem trim_of_length_eq {s : String} (h : (trim s).toList.length = s.toList.length) :
    trim s = s := by
  obtain ⟨before, after, -, -, hchars⟩ := exists_blank_around s.toList
  have hlength := congrArg List.length hchars
  rw [List.length_append, List.length_append] at hlength
  rw [trim, String.toList_ofList] at h
  have hbefore : before = [] := List.eq_nil_of_length_eq_zero (by omega)
  have hafter : after = [] := List.eq_nil_of_length_eq_zero (by omega)
  rw [hbefore, hafter, List.append_nil, List.nil_append] at hchars
  rw [trim, ← hchars, String.ofList_toList]

theorem toUpper_of_isBlank {c : Char} (h : isBlank c = true) : c.toUpper = c := by
  refine dif_neg fun hlower => ?_
  simp only [UInt32.le_iff_toNat_le] at hlower
  simp only [isBlank, Bool.or_eq_true, Bool.and_eq_true, decide_eq_true_eq, beq_iff_eq] at h
  have hval : c.val.toNat = c.toNat := rfl
  have ha : 'a'.val.toNat = 97 := rfl
  have hz : 'z'.val.toNat = 122 := rfl
  omega

theorem trim_trim (s : String) : trim (trim s) = trim s := by
  rw [trim, trim, String.toList_ofList, trimChars_eq_self_iff.mpr (isTrimmed_trimChars s.toList)]

end RequestTracing.Text
