import RequestTracing.Proofs.Header.Patterns
import RequestTracing.Proofs.Regex.CaseSwitch
/-!
Letter case in the matching of header names. Plain names and regular expressions match a name
whatever its case, unless an expression turns the switch for letter case off.
-/
namespace RequestTracing

namespace HeaderPattern

/-- Whether a written pattern is an expression that turns the switch for letter case off for some
part of it, as far as it can be read. -/
def mindsCase (library : Regex.Library) (written : String) : Bool :=
  isExpression (Text.trim written) &&
    (Regex.states library (Text.trim written)).any fun s => !s.flags.ignoreCase

theorem Reading.pattern?_eq_some_iff {r : Reading} {p : HeaderPattern} :
    r.pattern? = some p ↔ r = .pattern p := by
  cases r <;> simp [Reading.pattern?]

/-- A pattern that is used is the name as it is written, or the test of the expression if there are
special characters in it. -/
theorem eq_of_read_eq {compile : Regex.Compiler} {written : String} {p : HeaderPattern}
    (h : read written compile = .pattern p) :
    p = .literal (foldName (Text.trim written)) ∨
    ∃ test, p = .regex test ∧ compile (Text.trim written) = .ok test ∧
      isExpression (Text.trim written) = true := by
  simp only [read] at h
  split at h
  · cases h
  · split at h
    · cases h
      exact .inl rfl
    · rename_i hexpression
      split at h
      · rename_i test htest
        cases h
        exact .inr ⟨test, rfl, htest, by simpa using hexpression⟩
      · cases h

theorem test_of_lower_eq {library : Regex.Library} {pattern name other : String}
    {test : String → Bool} (htest : library.compile pattern = .ok test)
    (hswitch : ∀ s ∈ Regex.states library pattern, s.flags.ignoreCase = true)
    (hcase : Text.lower name = Text.lower other) : test name = test other := by
  unfold Regex.Library.compile at htest
  split at htest
  · rename_i r hr
    cases htest
    exact Regex.isMatch_of_lower_eq (Regex.caseless_of_parse? hswitch hr) hcase
  · cases htest

theorem isMatch_of_lower_eq {library : Regex.Library} {written name other : String}
    {p : HeaderPattern} (hread : read written library.compile = .pattern p)
    (hminds : mindsCase library written = false)
    (hcase : Text.lower name = Text.lower other) : p.isMatch name = p.isMatch other := by
  rcases eq_of_read_eq hread with rfl | ⟨test, rfl, htest, hexpression⟩
  · simp only [isMatch, foldName, hcase]
  · rw [mindsCase, hexpression, Bool.true_and] at hminds
    apply test_of_lower_eq htest _ hcase
    intro s hs
    simpa using List.any_eq_false.mp hminds s hs

end HeaderPattern

namespace HeaderMatcher

open HeaderPattern

variable {compile : Regex.Compiler} {written : List String} {name other : String}

/-- Patterns that each match both of two names or neither do so together. -/
theorem isMatch_congr (h : ∀ w ∈ written, ∀ p, read w compile = .pattern p →
    p.isMatch name = p.isMatch other) :
    (ofPatterns written compile).isMatch name = (ofPatterns written compile).isMatch other := by
  rw [Bool.eq_iff_iff, isMatch_ofPatterns, isMatch_ofPatterns]
  refine exists_congr fun w => and_congr_right fun hw => exists_congr fun p =>
    and_congr_right fun hread => ?_
  rw [h w hw p (Reading.pattern?_eq_some_iff.mp hread)]

theorem isMatch_of_foldName_eq (hwritten : ∀ w ∈ written, ∀ c ∈ w.toList, c ∉ specialCharacters)
    (hfolded : foldName name = foldName other) :
    (ofPatterns written compile).isMatch name = (ofPatterns written compile).isMatch other := by
  apply isMatch_congr
  intro w hw p hread
  rcases eq_of_read_eq hread with rfl | ⟨_, _, _, hexpression⟩
  · simp only [HeaderPattern.isMatch, hfolded]
  · obtain ⟨c, hc, hspecial⟩ := List.any_eq_true.mp hexpression
    rw [Text.trim, String.toList_ofList] at hc
    exact absurd (by simpa using hspecial) (hwritten w hw c (Text.mem_of_mem_trimChars hc))

/-- Whatever properties a library knows and whatever it finds too large, names that differ in letter
case only are matched alike by patterns none of which turns the switch for letter case off, unless
it is malformed. Plain names also match alike if hyphens and underscores are exchanged. -/
theorem isMatch_ignores_case (library : Regex.Library) (written : List String)
    (name other : String) :
    let matcher := ofPatterns written library.compile
    ((∀ w ∈ written, isMalformed library.compile w = false → mindsCase library w = false) →
      Text.lower name = Text.lower other →
      matcher.isMatch name = matcher.isMatch other ∧
      matchesAny name written library.compile = matchesAny other written library.compile) ∧
    ((∀ w ∈ written, ∀ c ∈ w.toList, c ∉ specialCharacters) →
      Text.lower (Text.exchange '_' '-' name) = Text.lower (Text.exchange '_' '-' other) →
      matcher.isMatch name = matcher.isMatch other ∧
      matchesAny name written library.compile = matchesAny other written library.compile) := by
  intro matcher
  constructor
  · intro hwritten hcase
    have hsame : matcher.isMatch name = matcher.isMatch other := by
      apply isMatch_congr
      -- Nothing is asked of malformed patterns: none of them is used.
      intro w hw p hread
      have hwell := isMalformed_eq_false_of_read_eq hread
      exact HeaderPattern.isMatch_of_lower_eq hread (hwritten w hw hwell) hcase
    exact ⟨hsame, hsame⟩
  · intro hwritten hfolded
    rw [lower_exchange, lower_exchange] at hfolded
    have hsame : matcher.isMatch name = matcher.isMatch other :=
      isMatch_of_foldName_eq hwritten hfolded
    exact ⟨hsame, hsame⟩

theorem isMatch_ignores_case_mixed :
    let library := Regex.Library.standard
    let written := ["Content_Type", "^x-[^b\\d](?x-s: [a-c&&[^B]] )$", "(?-i:[x"]
    let plain := [" Content_Type", "x-a"]
    (∀ w ∈ written, isMalformed library.compile w = false → mindsCase library w = false) ∧
      Text.lower "X-aC" = Text.lower "x-Ac" ∧
      (ofPatterns written library.compile).isMatch "X-aC" =
        (ofPatterns written library.compile).isMatch "x-Ac" ∧
      (∀ w ∈ plain, ∀ c ∈ w.toList, c ∉ specialCharacters) ∧
      Text.lower (Text.exchange '_' '-' "CONTENT-type") =
        Text.lower (Text.exchange '_' '-' "content_TYPE") ∧
      matchesAny "CONTENT-type" plain library.compile =
        matchesAny "content_TYPE" plain library.compile := by
  intro library written plain
  have hwritten : ∀ w ∈ written, isMalformed library.compile w = false →
      mindsCase library w = false := by decide +kernel
  have hcase : Text.lower "X-aC" = Text.lower "x-Ac" := by decide
  have hplain : ∀ w ∈ plain, ∀ c ∈ w.toList, c ∉ specialCharacters := by
    simp [plain, specialCharacters]
  have hfolded : Text.lower (Text.exchange '_' '-' "CONTENT-type") =
      Text.lower (Text.exchange '_' '-' "content_TYPE") := by decide +kernel
  exact ⟨hwritten, hcase, ((isMatch_ignores_case library written _ _).1 hwritten hcase).1, hplain,
    hfolded, ((isMatch_ignores_case library plain _ _).2 hplain hfolded).2⟩

/-- An expression may ask for the case that it is written in. -/
theorem isMatch_minds_case :
    let written := ["(?-i:X-A)"]
    Text.lower "X-A" = Text.lower "x-a" ∧ (ofPatterns written).isMatch "X-A" = true ∧
      (ofPatterns written).isMatch "x-a" = false := by
  decide +kernel

end HeaderMatcher

end RequestTracing
