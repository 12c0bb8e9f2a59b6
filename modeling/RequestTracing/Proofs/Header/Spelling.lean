import Mathlib
import RequestTracing.Header.Capture
/-!
The spellings of a header name: as it is compared, as a variable and as an attribute. Each of them
tells the same names apart, those that differ in more than letter case and the choice between hyphen
and underscore.
-/
namespace RequestTracing

theorem eq_of_toLower_eq {c sign : Char} (hsign : sign.isAlpha = false) (h : c.toLower = sign) :
    c = sign := by
  have hletter : c.isAlpha = false := by rw [← Char.isAlpha_toLower_eq_isAlpha, h, hsign]
  have hupper : ¬ c.isUpper = true := fun hupper => by simp [Char.isAlpha, hupper] at hletter
  rw [← h, Char.toLower_eq_of_not_isUpper hupper]

theorem eq_of_toUpper_eq {c sign : Char} (hsign : sign.isAlpha = false) (h : c.toUpper = sign) :
    c = sign := by
  have hletter : c.isAlpha = false := by rw [← Char.isAlpha_toUpper_eq_isAlpha, h, hsign]
  have hlower : ¬ c.isLower = true := fun hlower => by simp [Char.isAlpha, hlower] at hletter
  rw [← h, Char.toUpper_eq_of_not_isLower hlower]

/-- How a character of a name is compared. -/
def foldedChar (c : Char) : Char :=
  if c.toLower = '_' then '-' else c.toLower

/-- How a character of a name stands in the attribute of a header. -/
def attributeChar (c : Char) : Char :=
  if c.toLower = '-' then '_' else c.toLower

/-- How a character of a name stands in the variable of a header. -/
def variableChar (c : Char) : Char :=
  if c.toUpper = '-' then '_' else c.toUpper

theorem foldedChar_of_toLower {c d : Char} (h : c.toLower = d.toLower) :
    foldedChar c = foldedChar d := by
  unfold foldedChar
  rw [h]

theorem foldedChar_attributeChar (c : Char) : foldedChar (attributeChar c) = foldedChar c := by
  unfold attributeChar
  split
  · rename_i hhyphen
    rw [eq_of_toLower_eq (by decide) hhyphen]
    decide
  · exact foldedChar_of_toLower (Char.toLower_toLower_eq_toLower c)

theorem foldedChar_variableChar (c : Char) : foldedChar (variableChar c) = foldedChar c := by
  unfold variableChar
  split
  · rename_i hhyphen
    rw [eq_of_toUpper_eq (by decide) hhyphen]
    decide
  · exact foldedChar_of_toLower (Char.toLower_toUpper_eq_toLower c)

theorem attributeChar_foldedChar (c : Char) : attributeChar (foldedChar c) = attributeChar c := by
  unfold foldedChar
  split
  · rename_i hunderscore
    rw [eq_of_toLower_eq (by decide) hunderscore]
    decide
  · unfold attributeChar
    rw [Char.toLower_toLower_eq_toLower]

theorem variableChar_foldedChar (c : Char) : variableChar (foldedChar c) = variableChar c := by
  unfold foldedChar
  split
  · rename_i hunderscore
    rw [eq_of_toLower_eq (by decide) hunderscore]
    decide
  · unfold variableChar
    rw [Char.toUpper_toLower_eq_toUpper]

theorem foldedChar_foldedChar (c : Char) : foldedChar (foldedChar c) = foldedChar c := by
  rw [← foldedChar_attributeChar (foldedChar c), attributeChar_foldedChar, foldedChar_attributeChar]

theorem foldName_eq (name : String) : foldName name = .ofList (name.toList.map foldedChar) := by
  simp only [foldName, Text.exchange, Text.lower, String.toList_ofList, List.map_map]
  rfl

theorem headerAttribute_eq (start name : String) :
    headerAttribute start name = start ++ .ofList (name.toList.map attributeChar) := by
  simp only [headerAttribute, Text.exchange, Text.lower, String.toList_ofList, List.map_map]
  rfl

theorem Variable.ofHeader_eq (name : String) :
    ofHeader name = headerStart ++ .ofList (name.toList.map variableChar) := by
  simp only [ofHeader, Text.exchange, Text.upper, String.toList_ofList, List.map_map]
  rfl

/-- An exchange that leaves none of the new characters has had none to make. -/
theorem Text.exchange_eq_self {old new : Char} {s : String}
    (h : new ∉ (Text.exchange old new s).toList) : Text.exchange old new s = s := by
  rw [Text.exchange, String.toList_ofList] at h
  have hnone : ∀ c ∈ s.toList, c ≠ old := by
    rintro c hc rfl
    exact h (List.mem_map.mpr ⟨c, hc, if_pos rfl⟩)
  have hmap : s.toList.map (fun c => if c = old then new else c) = s.toList :=
    (List.map_congr_left fun c hc => if_neg (hnone c hc)).trans (List.map_id _)
  rw [Text.exchange, hmap, String.ofList_toList]

theorem lower_exchange (name : String) :
    Text.lower (Text.exchange '_' '-' name) = foldName name := by
  have hchar (c : Char) : Char.toLower (if c = '_' then '-' else c) =
      if c.toLower = '_' then '-' else c.toLower := by
    by_cases hsame : c = '_'
    · rw [hsame]
      decide
    · have hlower : c.toLower ≠ '_' := fun h => hsame (eq_of_toLower_eq (by decide) h)
      rw [if_neg hsame, if_neg hlower]
  simp only [Text.lower, Text.exchange, foldName, String.toList_ofList, List.map_map]
  exact congrArg String.ofList (List.map_congr_left fun c _ => hchar c)

theorem foldName_foldName (name : String) : foldName (foldName name) = foldName name := by
  simp [foldName_eq, Function.comp_def, foldedChar_foldedChar]

/-- A spelling that folding neither changes nor is changed by tells the same names apart as
folding. -/
theorem respelled_eq_iff {spell : Char → Char} (hfolded : ∀ c, foldedChar (spell c) = foldedChar c)
    (hspelled : ∀ c, spell (foldedChar c) = spell c) (start name other : String) :
    start ++ .ofList (name.toList.map spell) = start ++ .ofList (other.toList.map spell) ↔
      foldName name = foldName other := by
  rw [String.append_right_inj, String.ofList_inj, foldName_eq, foldName_eq, String.ofList_inj]
  refine ⟨fun h => ?_, fun h => ?_⟩
  · have hmap := congrArg (List.map foldedChar) h
    simpa [List.map_map, Function.comp_def, hfolded] using hmap
  · have hmap := congrArg (List.map spell) h
    simpa [List.map_map, Function.comp_def, hspelled] using hmap

/-- Names have one attribute if they are the same when folded, and only then. -/
theorem headerAttribute_eq_iff (start name other : String) :
    headerAttribute start name = headerAttribute start other ↔ foldName name = foldName other := by
  rw [headerAttribute_eq, headerAttribute_eq]
  exact respelled_eq_iff foldedChar_attributeChar attributeChar_foldedChar start name other

/-- Names have one variable if they are the same when folded, and only then. -/
theorem Variable.ofHeader_eq_iff (name other : String) :
    ofHeader name = ofHeader other ↔ foldName name = foldName other := by
  rw [ofHeader_eq, ofHeader_eq]
  exact respelled_eq_iff foldedChar_variableChar variableChar_foldedChar headerStart name other

end RequestTracing
