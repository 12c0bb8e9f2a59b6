import RequestTracing.Config
import RequestTracing.Header.Warning
import RequestTracing.Proofs.Text.Pieces
import RequestTracing.Proofs.Text.Trim
/-!
Lists of patterns in one text. The entries of a list are found however they are spaced, and a set of
patterns is the same whether it is made of the entries or of all that stands between the commas.
-/
namespace RequestTracing

namespace Config

/-- Whether a text can be an entry of a list. -/
structure IsEntry (entry : String) : Prop where
  nonempty : entry ≠ ""
  noComma : ',' ∉ entry.toList
  trimmed : Text.IsTrimmed entry.toList

/-- Whether texts are the entries of a list in order, each with any white space around it, and any
number of blank texts among them. -/
inductive IsSpacedOut : List String → List String → Prop
  | nil : IsSpacedOut [] []
  | blank {part : String} {entries parts : List String} (h : Text.IsBlankText part.toList) :
      IsSpacedOut entries parts → IsSpacedOut entries (part :: parts)
  | entry {before entry after : String} {entries parts : List String}
      (hbefore : Text.IsBlankText before.toList) (hafter : Text.IsBlankText after.toList) :
      IsSpacedOut entries parts →
      IsSpacedOut (entry :: entries) ((before ++ entry ++ after) :: parts)

variable {entries parts : List String}

theorem intercalate_splitAt (v : String) : ",".intercalate (Text.splitAt ',' v) = v := by
  have htexts : (Text.splitAt ',' v).map String.toList = Text.pieces ',' v.toList := by
    simp [Text.splitAt, Function.comp_def]
  rw [← String.toList_inj, String.toList_intercalate, htexts]
  exact Text.intercalate_pieces ',' v.toList

theorem splitAt_intercalate (hparts : ∀ part ∈ parts, ',' ∉ part.toList) (hne : parts ≠ []) :
    Text.splitAt ',' (",".intercalate parts) = parts := by
  have hpieces : Text.pieces ',' (",".intercalate parts).toList = parts.map String.toList := by
    rw [String.toList_intercalate]
    refine Text.pieces_intercalate (fun cs hcs => ?_) (by simpa using hne)
    obtain ⟨part, hpart, rfl⟩ := List.mem_map.mp hcs
    exact hparts part hpart
  rw [Text.splitAt, hpieces, List.map_map]
  simp [Function.comp_def]

theorem comma_not_mem_of_isBlankText {cs : List Char} (h : Text.IsBlankText cs) : ',' ∉ cs :=
  fun hmem => absurd (h ',' hmem) (by decide)

theorem isEntry_of_mem_splitList {v entry : String} (h : entry ∈ splitList v) : IsEntry entry := by
  obtain ⟨htrim, hne⟩ := List.mem_filter.mp h
  obtain ⟨piece, hpiece, rfl⟩ := List.mem_map.mp htrim
  obtain ⟨cs, hcs, rfl⟩ := List.mem_map.mp hpiece
  refine ⟨by simpa using hne, ?_, ?_⟩
  · intro hcomma
    rw [Text.trim, String.toList_ofList, String.toList_ofList] at hcomma
    exact Text.not_mem_of_mem_pieces hcs (Text.mem_of_mem_trimChars hcomma)
  · rw [Text.trim, String.toList_ofList]
    exact Text.isTrimmed_trimChars _

theorem isSpacedOut_trim (parts : List String) :
    IsSpacedOut ((parts.map Text.trim).filter (· ≠ "")) parts := by
  induction parts with
  | nil => exact .nil
  | cons part parts ih =>
    rw [List.map_cons, List.filter_cons]
    by_cases hblank : Text.trim part = ""
    · rw [if_neg (by simp [hblank])]
      exact .blank (Text.trim_eq_empty_iff.mp hblank) ih
    · obtain ⟨before, after, hbefore, hafter, hpart⟩ := Text.exists_blank_around part.toList
      have htext : part = .ofList before ++ Text.trim part ++ .ofList after := by
        rw [← String.toList_inj]
        simpa [Text.trim] using hpart
      have hspaced : IsSpacedOut (Text.trim part :: (parts.map Text.trim).filter (· ≠ ""))
          ((.ofList before ++ Text.trim part ++ .ofList after) :: parts) :=
        .entry (by simpa using hbefore) (by simpa using hafter) ih
      rw [if_pos (by simpa using hblank)]
      rwa [← htext] at hspaced

namespace IsSpacedOut

variable (h : IsSpacedOut entries parts) (hentries : ∀ entry ∈ entries, IsEntry entry)

include h hentries

theorem comma_not_mem : ∀ part ∈ parts, ',' ∉ part.toList := by
  induction h with
  | nil => exact List.forall_mem_nil _
  | blank hblank _ ih =>
    exact List.forall_mem_cons.mpr ⟨comma_not_mem_of_isBlankText hblank, ih hentries⟩
  | entry hbefore hafter _ ih =>
    obtain ⟨hentry, hrest⟩ := List.forall_mem_cons.mp hentries
    refine List.forall_mem_cons.mpr ⟨?_, ih hrest⟩
    simp [comma_not_mem_of_isBlankText hbefore, hentry.noComma,
      comma_not_mem_of_isBlankText hafter]

theorem filter_trim : (parts.map Text.trim).filter (· ≠ "") = entries := by
  induction h with
  | nil => rfl
  | blank hblank _ ih =>
    rw [List.map_cons, Text.trim_eq_empty_iff.mpr hblank]
    exact ih hentries
  | @entry before entry after _ _ hbefore hafter _ ih =>
    obtain ⟨hentry, hrest⟩ := List.forall_mem_cons.mp hentries
    have htrim : Text.trim (before ++ entry ++ after) = entry := by
      rw [Text.trim, String.toList_append, String.toList_append,
        Text.trimChars_append hbefore hafter hentry.trimmed, String.ofList_toList]
    rw [List.map_cons, htrim, List.filter_cons, if_pos (by simpa using hentry.nonempty), ih hrest]

theorem splitList_intercalate : splitList (",".intercalate parts) = entries := by
  by_cases hne : parts = []
  · rw [← h.filter_trim hentries, hne]
    rfl
  · rw [splitList, splitAt_intercalate (h.comma_not_mem hentries) hne, h.filter_trim hentries]

end IsSpacedOut

/-- A text lists those entries that it is with white space and blank texts between its commas. -/
theorem splitList_eq_iff (hentries : ∀ entry ∈ entries, IsEntry entry) {v : String} :
    splitList v = entries ↔ ∃ parts, IsSpacedOut entries parts ∧ ",".intercalate parts = v := by
  constructor
  · rintro rfl
    exact ⟨Text.splitAt ',' v, isSpacedOut_trim _, intercalate_splitAt v⟩
  · rintro ⟨parts, hspaced, rfl⟩
    exact hspaced.splitList_intercalate hentries

theorem isSpacedOut_self (entries : List String) : IsSpacedOut entries entries := by
  induction entries with
  | nil => exact .nil
  | cons entry entries ih =>
    have hspaced : IsSpacedOut (entry :: entries) (("" ++ entry ++ "") :: entries) :=
      .entry (List.forall_mem_nil _) (List.forall_mem_nil _) ih
    simpa using hspaced

end Config

namespace HeaderPattern

variable (compile : Regex.Compiler)

theorem read_trim (written : String) :
    read (Text.trim written) compile = read written compile := by
  rw [read, Text.trim_trim]
  rfl

theorem read_of_blank {written : String} (h : Text.trim written = "") :
    read written compile = .blank := by
  rw [read, if_pos h]

/-- What is taken of the patterns between commas is taken of the entries, if nothing is taken of
blank ones. -/
theorem filterMap_read_splitList {α : Type} {take : Reading → Option α} (h : take .blank = none)
    (v : String) : (Config.splitList v).filterMap (fun w => take (read w compile)) =
      (Text.splitAt ',' v).filterMap fun w => take (read w compile) := by
  rw [Config.splitList, List.filterMap_filter, List.filterMap_map]
  apply List.filterMap_congr
  intro w _
  by_cases hblank : Text.trim w = ""
  · simp [hblank, read_of_blank, h]
  · simp [hblank, read_trim]

end HeaderPattern

namespace HeaderMatcher

variable (compile : Regex.Compiler)

theorem ofPatterns_splitList (v : String) :
    ofPatterns (Config.splitList v) compile = ofPatterns (Text.splitAt ',' v) compile :=
  congrArg HeaderMatcher.mk (HeaderPattern.filterMap_read_splitList compile rfl v)

theorem warnings_splitList (v : String) :
    warnings (Config.splitList v) compile = warnings (Text.splitAt ',' v) compile :=
  congrArg (List.map _) (HeaderPattern.filterMap_read_splitList compile rfl v)

end HeaderMatcher

namespace Config

/-- The entries of a list are not empty and have neither commas nor white space at their ends. A
text lists them just if it is them between commas, with any white space around them and any blank
texts among them; so they are found again when they are joined. Whatever is made of expressions, a
set of patterns made of them matches the same names as one made of all texts between the commas, is
empty just if that one is, and gives the same warnings. -/
theorem splitList_patterns (compile : Regex.Compiler) (v : String) :
    (∀ entry ∈ splitList v, IsEntry entry) ∧
    (∀ entries : List String, (∀ entry ∈ entries, IsEntry entry) →
      (splitList v = entries ↔ ∃ parts, IsSpacedOut entries parts ∧ ",".intercalate parts = v)) ∧
    splitList (",".intercalate (splitList v)) = splitList v ∧
    let listed := HeaderMatcher.ofPatterns (splitList v) compile
    let raw := HeaderMatcher.ofPatterns (Text.splitAt ',' v) compile
    (∀ name, listed.isMatch name = raw.isMatch name) ∧ listed.isEmpty = raw.isEmpty ∧
      HeaderMatcher.warnings (splitList v) compile =
        HeaderMatcher.warnings (Text.splitAt ',' v) compile := by
  have hentries : ∀ entry ∈ splitList v, IsEntry entry := fun _ => isEntry_of_mem_splitList
  refine ⟨hentries, fun entries hlisted => splitList_eq_iff hlisted,
    (isSpacedOut_self (splitList v)).splitList_intercalate hentries, fun name => ?_, ?_,
    HeaderMatcher.warnings_splitList compile v⟩
  · rw [HeaderMatcher.ofPatterns_splitList]
  · rw [HeaderMatcher.ofPatterns_splitList]

theorem splitList_patterns_spaced :
    let entries := ["content-type", "X-.*", "[x"]
    let parts :=
      ["\u2003" ++ "content-type" ++ " ", " \t", "" ++ "X-.*" ++ "", "", "" ++ "[x" ++ "\u0085"]
    let v := "\u2003content-type , \t,X-.*,,[x\u0085"
    (∀ entry ∈ entries, IsEntry entry) ∧ IsSpacedOut entries parts ∧ ",".intercalate parts = v ∧
      splitList v = entries ∧ splitList (",".intercalate entries) = entries ∧
      (HeaderMatcher.ofPatterns entries).isMatch "x-a" =
        (HeaderMatcher.ofPatterns (Text.splitAt ',' v)).isMatch "x-a" ∧
      HeaderMatcher.warnings entries = HeaderMatcher.warnings (Text.splitAt ',' v) := by
  intro entries parts v
  have hentries : ∀ entry ∈ entries, IsEntry entry := by
    simp only [entries, List.forall_mem_cons]
    exact ⟨⟨by decide, by decide, by decide⟩, ⟨by decide, by decide, by decide⟩,
      ⟨by decide, by decide, by decide⟩, List.forall_mem_nil _⟩
  have hspaced : IsSpacedOut entries parts :=
    .entry (by decide) (by decide) (.blank (by decide) (.entry (by decide) (by decide)
      (.blank (by decide) (.entry (by decide) (by decide) .nil))))
  have hjoined : ",".intercalate parts = v := by decide
  obtain ⟨_, hlists, hagain, hmatch, _, hwarnings⟩ :=
    splitList_patterns Regex.Library.standard.compile v
  have hlisted : splitList v = entries := (hlists entries hentries).mpr ⟨parts, hspaced, hjoined⟩
  rw [hlisted] at hagain hmatch hwarnings
  exact ⟨hentries, hspaced, hjoined, hlisted, hagain, hmatch "x-a", hwarnings⟩

end Config

end RequestTracing
