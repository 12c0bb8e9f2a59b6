import RequestTracing.Text.Blank
import RequestTracing.Text.Hexadecimal
import RequestTracing.Text.Integer
import RequestTracing.Text.Pieces
/-!
What is written is read back: numbers in either notation, and the parts between separators.
-/
namespace RequestTracing.Text

theorem hexDigit?_digitChar {d : Nat} (h : d < 16) : hexDigit? (Nat.digitChar d) = some d := by
  revert d
  decide

theorem readHexDigits?_hexDigits (width n : Nat) :
    readHexDigits? (hexDigits width n) = some (n % Nat.pow 16 width) := by
  induction width generalizing n with
  | zero => exact congrArg some (Nat.mod_one n).symm
  | succ width ih =>
    have hread := ih (n / 16)
    unfold readHexDigits? at hread ⊢
    have hdigit : hexDigit? (Nat.digitChar (n % 16)) = some (n % 16) :=
      hexDigit?_digitChar (Nat.mod_lt n (by decide))
    rw [hexDigits, List.foldlM_append, hread]
    simp only [List.foldlM_cons, List.foldlM_nil, hdigit, Option.map_some, Option.bind_eq_bind,
      Option.bind_some, Option.pure_def, Option.some.injEq]
    have hpow : Nat.pow 16 (width + 1) = 16 * Nat.pow 16 width := Nat.mul_comm _ _
    rw [hpow, Nat.mod_mul]
    exact Nat.add_comm _ _

theorem exists_digit_of_mem_hexDigits {width n : Nat} {c : Char} (h : c ∈ hexDigits width n) :
    ∃ d < 16, c = Nat.digitChar d := by
  induction width generalizing n with
  | zero => simp [hexDigits] at h
  | succ width ih =>
    rcases List.mem_append.mp h with h | h
    · exact ih h
    · exact ⟨n % 16, Nat.mod_lt n (by decide), List.mem_singleton.mp h⟩

theorem length_hexDigits (width n : Nat) : (hexDigits width n).length = width := by
  induction width generalizing n with
  | zero => rfl
  | succ width ih => simp [hexDigits, ih]

theorem readDigits?_toDigits (n : Nat) : readDigits? (Nat.toDigits 10 n) = some n := by
  have hdigits : (Nat.toDigits 10 n).all Char.isDigit = true :=
    List.all_eq_true.mpr fun c hc => Nat.isDigit_of_mem_toDigits (by decide) (by decide) hc
  have hvalue : digitsValue (Nat.toDigits 10 n) = n := Nat.ofDigitChars_ten_toDigits
  simp [readDigits?, hdigits, hvalue, Nat.toDigits_ne_nil]

theorem toDigits_inj {m n : Nat} : Nat.toDigits 10 m = Nat.toDigits 10 n ↔ m = n := by
  refine ⟨fun h => ?_, congrArg (Nat.toDigits 10)⟩
  have hread := congrArg readDigits? h
  simpa [readDigits?_toDigits] using hread

theorem readNatBelow?_eq_none {limit : Nat} {cs : List Char} {c : Char} (hmem : c ∈ cs)
    (hsign : c ≠ '+') (hdigit : c.isDigit = false) : readNatBelow? limit cs = none := by
  have hdigits {cs : List Char} (hmem : c ∈ cs) : readDigits? cs = none := by
    have hall : cs.all Char.isDigit = false := List.all_eq_false.mpr ⟨c, hmem, by simp [hdigit]⟩
    simp [readDigits?, hall]
  unfold readNatBelow?
  split
  · rcases List.mem_cons.mp hmem with heq | hmem
    · exact absurd heq hsign
    · rw [hdigits hmem, Option.filter_none]
  · rw [hdigits hmem, Option.filter_none]

theorem trimChars_eq_self {cs : List Char} (h : ∀ c ∈ cs, isBlank c = false) :
    trimChars cs = cs := by
  have hdrop {cs : List Char} (h : ∀ c ∈ cs, isBlank c = false) : cs.dropWhile isBlank = cs := by
    cases cs with
    | nil => rfl
    | cons c cs => simp [h c List.mem_cons_self]
  unfold trimChars dropEnd
  rw [hdrop h, hdrop fun c hc => h c (List.mem_reverse.mp hc), List.reverse_reverse]

theorem mem_of_mem_trimChars {cs : List Char} {c : Char} (h : c ∈ trimChars cs) :
    c ∈ cs := by
  have hdrop {cs : List Char} {c : Char} (h : c ∈ cs.dropWhile isBlank) : c ∈ cs :=
    (List.dropWhile_sublist _).mem h
  exact hdrop (List.mem_reverse.mp (hdrop (List.mem_reverse.mp h)))

theorem pieces_eq_singleton {separator : Char} {cs : List Char} (h : separator ∉ cs) :
    pieces separator cs = [cs] := by
  induction cs with
  | nil => rfl
  | cons c cs ih =>
    obtain ⟨hfirst, hrest⟩ := not_or.mp fun hmem => h (List.mem_cons.mpr hmem)
    simp [pieces, ih hrest, Ne.symm hfirst]

theorem pieces_append_cons {separator : Char} {piece : List Char} (h : separator ∉ piece)
    (rest : List Char) :
    pieces separator (piece ++ separator :: rest) = piece :: pieces separator rest := by
  induction piece with
  | nil => simp [pieces]
  | cons c piece ih =>
    obtain ⟨hfirst, hrest⟩ := not_or.mp fun hmem => h (List.mem_cons.mpr hmem)
    simp [pieces, ih hrest, Ne.symm hfirst]

theorem cut?_append_cons {separator : Char} {before : List Char} (h : separator ∉ before)
    (after : List Char) : cut? separator (before ++ separator :: after) = some (before, after) := by
  induction before with
  | nil => simp [cut?]
  | cons c before ih =>
    obtain ⟨hfirst, hrest⟩ := not_or.mp fun hmem => h (List.mem_cons.mpr hmem)
    simp [cut?, Ne.symm hfirst, ih hrest]

theorem after?_append (start rest : List Char) : after? start (start ++ rest) = some rest := by
  induction start with
  | nil => rfl
  | cons c start ih => rw [List.cons_append, after?, if_pos rfl, ih]

theorem append_of_after?_eq_some {start cs rest : List Char} (h : after? start cs = some rest) :
    start ++ rest = cs := by
  fun_induction after? start cs with
  | case1 => simpa using h.symm
  | case2 => simp at h
  | case3 c start cs ih => rw [List.cons_append, ih h]
  | case4 => simp at h

/-- A part of a text is taken as a whole, up to a character that ends it. -/
theorem takeWhile_append_stop {test : Char → Bool} {part rest : List Char}
    (hpart : ∀ c ∈ part, test c = true) (hrest : ∀ c ∈ rest.head?, test c = false) :
    (part ++ rest).takeWhile test = part := by
  rw [List.takeWhile_append_of_pos hpart]
  cases rest with
  | nil => simp
  | cons c rest => simp [hrest c rfl]

theorem drop_takeWhile (test : Char → Bool) (cs : List Char) :
    cs.drop (cs.takeWhile test).length = cs.dropWhile test :=
  List.append_cancel_left ((List.prefix_iff_eq_append.mp (List.takeWhile_prefix test)).trans
    List.takeWhile_append_dropWhile.symm)

theorem head?_dropWhile (test : Char → Bool) (cs : List Char) :
    ∀ c ∈ (cs.dropWhile test).head?, test c = false := by
  intro c hc
  have hnot := List.head?_dropWhile_not test cs
  rw [Option.mem_def.mp hc] at hnot
  exact hnot

end RequestTracing.Text
