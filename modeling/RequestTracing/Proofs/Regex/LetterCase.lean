import Mathlib
import RequestTracing.Proofs.Text.PercentDecoding
import RequestTracing.Regex.Escape
import RequestTracing.Text.AsciiCase
/-!
Expressions that do not tell the two cases of a letter apart. Their classes have both or neither, so
they match a text just if they match it in lower case.
-/
namespace RequestTracing.Regex

/-- Whether a function of characters does not tell the two cases of an ASCII letter apart. -/
def IgnoresCase {α : Type} (f : Char → α) : Prop :=
  ∀ c, f c.toLower = f c

theorem ignoresCase_of_ascii {α : Type} {f : Char → α}
    (h : ∀ n < 0x80, f (Char.ofNat n).toLower = f (Char.ofNat n)) : IgnoresCase f := by
  intro c
  by_cases hc : c.toNat < 0x80
  · exact Text.forall_ascii (P := fun c => f c.toLower = f c) h hc
  · have hupper : ¬ c.isUpper = true := by
      simp only [Char.isUpper, decide_eq_true_eq, UInt32.le_iff_toNat_le]
      intro h
      exact hc (Nat.lt_of_le_of_lt h.2 (by decide))
    rw [Char.toLower_eq_of_not_isUpper hupper]

theorem ignoresCase_single {c : Char} (h : 0x80 ≤ c.toNat) :
    IgnoresCase (CharClass.single c).test := by
  refine ignoresCase_of_ascii fun n hn => ?_
  have hne {d : Char} (hd : d.toNat < 0x80) : (d == c) = false := by
    rw [beq_eq_false_iff_ne]
    rintro rfl
    exact absurd hd (Nat.not_lt.mpr h)
  have hascii : ∀ n < 0x80, (Char.ofNat n).toNat < 0x80 ∧ (Char.ofNat n).toLower.toNat < 0x80 := by
    decide
  exact (hne (hascii n hn).2).trans (hne (hascii n hn).1).symm

namespace CharClass

theorem ignoresCase_compl {a : CharClass} (h : IgnoresCase a.test) : IgnoresCase a.compl.test :=
  fun c => congrArg (! ·) (h c)

theorem ignoresCase_caseVariants : IgnoresCase Unicode.caseVariants :=
  ignoresCase_of_ascii (by decide)

theorem ignoresCase_closeCase (a : CharClass) : IgnoresCase a.closeCase.test :=
  fun c => congrArg (·.any a.test) (ignoresCase_caseVariants c)

theorem ignoresCase_closeAsciiCase (a : CharClass) : IgnoresCase a.closeAsciiCase.test := by
  intro c
  by_cases hupper : c.isUpper = true
  · have hself : c.toUpper = c :=
      Char.toUpper_eq_of_not_isLower (Char.not_isLower_of_isUpper hupper)
    simp only [closeAsciiCase, Char.toLower_toLower_eq_toLower, Char.toUpper_toLower_eq_toUpper,
      hself]
    cases a.test c <;> cases a.test c.toLower <;> rfl
  · rw [Char.toLower_eq_of_not_isUpper hupper]

def shorthands : List CharClass := [digit, asciiDigit, blank, asciiBlank, word, asciiWord]

theorem ignoresCase_shorthands : ∀ cls ∈ shorthands, IgnoresCase cls.test := by
  simp only [shorthands, List.forall_mem_cons]
  exact ⟨ignoresCase_of_ascii (by decide), ignoresCase_of_ascii (by decide),
    ignoresCase_of_ascii (by decide), ignoresCase_of_ascii (by decide),
    ignoresCase_of_ascii (by decide), ignoresCase_of_ascii (by decide), List.forall_mem_nil _⟩

end CharClass

/-- Whether a condition on a place does not tell the two cases of a letter apart. -/
def Look.IgnoresCase : Look → Prop
  | .word isWord _ => Regex.IgnoresCase isWord
  | _ => True

/-- Whether no part of an expression tells the two cases of a letter apart. -/
def Caseless : Regex → Prop
  | .empty => True
  | .one cls => IgnoresCase cls.test
  | .look condition => condition.IgnoresCase
  | .seq first second | .alt first second => first.Caseless ∧ second.Caseless
  | .repeated body _ _ => body.Caseless

/-! ## Matching in lower case -/

def Place.lower (p : Place) : Place :=
  ⟨p.before.map Char.toLower, p.after.map Char.toLower⟩

theorem places_lower (before : Option Char) (cs : List Char) :
    places (before.map Char.toLower) (cs.map Char.toLower) =
      (places before cs).map Place.lower := by
  induction cs generalizing before with
  | nil => rfl
  | cons c cs ih => simp [places, Place.lower, ← ih (some c)]

theorem any_lower {test : Char → Bool} (h : IgnoresCase test) (c : Option Char) :
    (c.map Char.toLower).any test = c.any test := by
  cases c with
  | none => rfl
  | some c => exact h c

theorem isLineEnd_lower {sign : Char} (h : sign ∈ ['\n', '\r']) (c : Option Char) :
    (c.map Char.toLower == some sign) = (c == some sign) := by
  have hsign : ∀ sign ∈ ['\n', '\r'], IgnoresCase (· == sign) := by
    simp only [List.forall_mem_cons]
    exact ⟨ignoresCase_of_ascii (by decide), ignoresCase_of_ascii (by decide),
      List.forall_mem_nil _⟩
  cases c with
  | none => rfl
  | some c => exact hsign sign h c

theorem holds_lower {condition : Look} (h : condition.IgnoresCase) (p : Place) :
    condition.holds p.lower = condition.holds p := by
  cases condition with
  | textStart => simp [Look.holds, Place.lower]
  | textEnd => simp [Look.holds, Place.lower]
  | lineStart crlf => cases crlf <;> simp [Look.holds, Place.lower, bne, isLineEnd_lower]
  | lineEnd crlf => cases crlf <;> simp [Look.holds, Place.lower, bne, isLineEnd_lower]
  | word isWord holds => simp [Look.holds, Place.lower, any_lower h]

theorem advance_lower {test : Char → Bool} (h : IgnoresCase test) (marked : Bool)
    (ps : List Place) (marks : Marks) :
    advance test marked (ps.map Place.lower) marks = advance test marked ps marks := by
  induction ps generalizing marked marks with
  | nil => rfl
  | cons p ps ih =>
    cases marks with
    | nil => rfl
    | cons m marks => simp [advance, ih, Place.lower, any_lower h]

theorem follow_lower {r : Regex} (h : r.Caseless) (ps : List Place) (marks : Marks) :
    follow (ps.map Place.lower) r marks = follow ps r marks := by
  induction r generalizing marks with
  | empty => rfl
  | one cls => exact advance_lower h false ps marks
  | look condition =>
    simp only [follow]
    rw [List.zipWith_map_right]
    simp only [holds_lower h]
  | seq first second hfirst hsecond => simp only [follow, hfirst h.1, hsecond h.2]
  | alt first second hfirst hsecond => simp only [follow, hfirst h.1, hsecond h.2]
  | repeated body least most hbody =>
    have hstep : follow (ps.map Place.lower) body = follow ps body := funext (hbody h)
    simp only [follow, hstep, List.length_map]

/-- Such an expression matches a text just if it matches it in lower case. -/
theorem isMatch_lower {r : Regex} (h : r.Caseless) (text : String) :
    r.isMatch (Text.lower text) = r.isMatch text := by
  have hplaces : places none (text.toList.map Char.toLower) =
      (places none text.toList).map Place.lower := places_lower none text.toList
  simp only [isMatch, Text.lower, String.toList_ofList, hplaces, follow_lower h, List.map_map,
    Function.comp_def]

theorem isMatch_of_lower_eq {r : Regex} (h : r.Caseless) {text other : String}
    (hcase : Text.lower text = Text.lower other) : r.isMatch text = r.isMatch other := by
  rw [← isMatch_lower h, hcase, isMatch_lower h]

end RequestTracing.Regex
