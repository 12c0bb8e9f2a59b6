import RequestTracing.Header.Capture
import RequestTracing.Proofs.Dictionary.Lookup
/-!
Headers grouped by name, and what is captured of a group. A name has the values that were added
under it; an attribute is decided by the greatest of the allowed names that share it.
-/
namespace RequestTracing

namespace HeaderSet

/-- The values of the pairs whose name in lower case is the given one, in order. -/
def valuesUnder (name : String) (pairs : List (String × String)) : List String :=
  pairs.filterMap fun (written, value) => if Text.lower written = name then some value else none

theorem get?_append (headers : HeaderSet) (written value name : String) :
    (headers.append written value).get? name =
      if Text.lower written = name then some ((headers.get? name).getD [] ++ [value])
      else headers.get? name := by
  unfold append values?
  rw [Dictionary.get?_insert]
  split
  · rename_i hname
    rw [hname]
  · rfl

theorem get?_ofPairs (pairs : List (String × String)) (name : String) :
    (ofPairs pairs).get? name =
      if valuesUnder name pairs = [] then none else some (valuesUnder name pairs) := by
  have hfold (headers : HeaderSet) :
      (pairs.foldl (fun headers (name, value) => headers.append name value) headers).get? name =
        if valuesUnder name pairs = [] then headers.get? name
        else some ((headers.get? name).getD [] ++ valuesUnder name pairs) := by
    induction pairs generalizing headers with
    | nil => simp [valuesUnder]
    | cons pair pairs ih =>
      rw [List.foldl_cons, ih, get?_append]
      by_cases hname : Text.lower pair.1 = name
      · have hcons : valuesUnder name (pair :: pairs) = pair.2 :: valuesUnder name pairs := by
          simp [valuesUnder, hname]
        rw [if_pos hname, hcons, if_neg (List.cons_ne_nil _ _)]
        split
        · rename_i hnone
          rw [hnone]
        · simp
      · have hcons : valuesUnder name (pair :: pairs) = valuesUnder name pairs := by
          simp [valuesUnder, hname]
        rw [if_neg hname, hcons]
  exact (hfold .empty).trans (by simp)

theorem valuesUnder_ne_nil {name : String} {pairs : List (String × String)} :
    valuesUnder name pairs ≠ [] ↔ ∃ pair ∈ pairs, Text.lower pair.1 = name := by
  simp [valuesUnder, List.filterMap_eq_nil_iff]

theorem mem_keys_ofPairs {name : String} {pairs : List (String × String)} :
    name ∈ (ofPairs pairs).keys ↔ ∃ pair ∈ pairs, Text.lower pair.1 = name := by
  rw [Dictionary.mem_keys_iff, get?_ofPairs, ← valuesUnder_ne_nil]
  split <;> simp_all

end HeaderSet

section Capture

variable (allowed hidden : HeaderMatcher) (key : String → String) (headers : HeaderSet)

theorem get?_captureHeaders (label : String) :
    (captureHeaders allowed hidden key headers).get? label =
      (headers.entries.reverse.find? fun entry =>
          allowed.isMatch entry.1 && decide (key entry.1 = label)).map
        fun entry => .texts [shownValue hidden entry.1 (",".intercalate entry.2)] := by
  unfold captureHeaders
  rw [Dictionary.get?_ofList, ← List.map_reverse, List.find?_map, ← List.filter_reverse,
    List.find?_filter, Option.map_map]
  simp [Function.comp_def]

/-- Whether a name is the greatest of the allowed names that share an attribute. -/
structure IsDecisive (label name : String) : Prop where
  mem : name ∈ headers.keys
  isAllowed : allowed.isMatch name = true
  shares : key name = label
  greatest : ∀ other ∈ headers.keys, allowed.isMatch other = true → key other = label →
    other ≤ name

variable {allowed headers} {label name : String}

theorem isDecisive_of_find? {entry : String × List String}
    (h : headers.entries.reverse.find? (fun entry =>
      allowed.isMatch entry.1 && decide (key entry.1 = label)) = some entry) :
    IsDecisive allowed key headers label entry.1 := by
  obtain ⟨hentry, before, after, hsplit, hbefore⟩ := List.find?_eq_some_iff_append.mp h
  have hentries : headers.entries = after.reverse ++ entry :: before.reverse := by
    have hreverse := congrArg List.reverse hsplit
    simpa using hreverse
  have hascending := headers.ascending
  rw [hentries, List.pairwise_append] at hascending
  have hboth : allowed.isMatch entry.1 = true ∧ key entry.1 = label := by simpa using hentry
  refine ⟨?_, hboth.1, hboth.2, ?_⟩
  · rw [Dictionary.keys, hentries]
    simp
  · intro other hother hallowed hshares
    obtain ⟨found, hfound, rfl⟩ := List.mem_map.mp hother
    rw [hentries, List.mem_append, List.mem_cons] at hfound
    rcases hfound with hless | rfl | hgreater
    · exact String.not_lt.mp (String.lt_asymm (hascending.2.2 found hless entry List.mem_cons_self))
    · exact String.le_refl _
    · have hpassed := hbefore found (List.mem_reverse.mp hgreater)
      simp [hallowed, hshares] at hpassed

theorem exists_isDecisive (hname : name ∈ headers.keys) (hallowed : allowed.isMatch name = true) :
    ∃ last, IsDecisive allowed key headers (key name) last := by
  obtain ⟨entry, hentry, rfl⟩ := List.mem_map.mp hname
  have hsome : (headers.entries.reverse.find? fun other =>
      allowed.isMatch other.1 && decide (key other.1 = key entry.1)).isSome = true :=
    List.find?_isSome.mpr ⟨entry, List.mem_reverse.mpr hentry, by simp [hallowed]⟩
  obtain ⟨last, hlast⟩ := Option.isSome_iff_exists.mp hsome
  exact ⟨last.1, isDecisive_of_find? key hlast⟩

theorem mem_keys_captureHeaders (hidden : HeaderMatcher) :
    label ∈ (captureHeaders allowed hidden key headers).keys ↔
      ∃ name ∈ headers.keys, allowed.isMatch name = true ∧ key name = label := by
  rw [Dictionary.mem_keys_iff, get?_captureHeaders, Option.isSome_map, List.find?_isSome]
  simp [Dictionary.keys]

variable {key}

theorem IsDecisive.unique {other : String} (h : IsDecisive allowed key headers label name)
    (hother : IsDecisive allowed key headers label other) : name = other :=
  String.le_antisymm (hother.greatest name h.mem h.isAllowed h.shares)
    (h.greatest other hother.mem hother.isAllowed hother.shares)

theorem IsDecisive.get?_captureHeaders (h : IsDecisive allowed key headers label name)
    (hidden : HeaderMatcher) {values : List String} (hvalues : headers.get? name = some values) :
    (captureHeaders allowed hidden key headers).get? label =
      some (.texts [shownValue hidden name (",".intercalate values)]) := by
  rw [RequestTracing.get?_captureHeaders]
  cases hfound : headers.entries.reverse.find? fun entry =>
      allowed.isMatch entry.1 && decide (key entry.1 = label) with
  | none =>
    have hentry := Dictionary.get?_eq_some_iff.mp hvalues
    have hpassed := List.find?_eq_none.mp hfound _ (List.mem_reverse.mpr hentry)
    simp [h.isAllowed, h.shares] at hpassed
  | some entry =>
    have hname := h.unique (isDecisive_of_find? key hfound)
    have hentry := List.mem_reverse.mp (List.mem_of_find?_eq_some hfound)
    have hsame := Dictionary.get?_eq_some_iff.mpr hentry
    rw [← hname, hvalues] at hsame
    rw [Option.map_some, ← hname, Option.some.inj hsame]

end Capture

end RequestTracing
