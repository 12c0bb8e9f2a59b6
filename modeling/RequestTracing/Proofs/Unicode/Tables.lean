import RequestTracing.Unicode.Direction
/-!
What the tables of character properties say. The notation of a table is read once, from the
characters of its text.
-/
namespace RequestTracing.Unicode

theorem Ranges.parse_ofList (cs : List Char) :
    Ranges.parse (String.ofList cs) = ⟨(cs.foldl Ranges.Reading.step {}).finish.done.reverse⟩ := by
  rw [Ranges.parse, String.toList_ofList]

theorem Ranges.contains_iff {r : Ranges} {c : Char} : r.contains c = true ↔
    ∃ range ∈ r.list, range.1 ≤ c.toNat ∧ c.toNat ≤ range.2 := by
  simp [Ranges.contains]

theorem directionTable_wide : ∀ entry ∈ directionTable,
    entry.1 ∈ [Direction.rightToLeft, .arabicLetter, .arabicNumber] →
      ∀ range ∈ entry.2.list, 0x80 ≤ range.1 := by
  unfold directionTable
  repeat rw [Ranges.parse_ofList]
  decide +kernel

theorem direction_ascii {c : Char} (h : c.toNat < 0x80) :
    direction c ∉ [Direction.rightToLeft, .arabicLetter, .arabicNumber] := by
  have hwide := directionTable_wide
  have hdirection : direction c =
      ((directionTable.find? fun entry => entry.2.contains c).map Prod.fst).getD .leftToRight := rfl
  rw [hdirection]
  generalize directionTable = table at hwide
  cases hfind : table.find? fun entry => entry.2.contains c with
  | none => decide
  | some entry =>
    rw [Option.map_some, Option.getD_some]
    intro hmem
    have hcontains := List.find?_some hfind
    obtain ⟨range, hrange, hlow, -⟩ := Ranges.contains_iff.mp hcontains
    have hfirst : 0x80 ≤ range.1 := hwide entry (List.mem_of_find?_eq_some hfind) hmem range hrange
    omega

end RequestTracing.Unicode
