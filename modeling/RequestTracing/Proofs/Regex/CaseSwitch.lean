import RequestTracing.Proofs.Regex.LetterCase
import RequestTracing.Regex.Parser
/-!
Patterns that leave the switch for letter case on. Each part is read with the switches in force
where it stands, and while that one is on, no part tells the two cases of a letter apart.
-/
namespace RequestTracing.Regex

/-! ## Classes and escapes -/

theorem ignoresCase_of_compl? {flags : Flags} {negated : Bool} {cls out : CharClass}
    (h : IgnoresCase cls.test) (hout : flags.compl? negated cls = some out) :
    IgnoresCase out.test := by
  unfold Flags.compl? at hout
  split at hout
  · split at hout
    · exact Option.some.inj hout ▸ CharClass.ignoresCase_compl h
    · cases hout
  · exact Option.some.inj hout ▸ h

/-- Whether a unit of a pattern does not tell the two cases of a letter apart, once classes are
closed. -/
def Primitive.IgnoresCase : Primitive → Prop
  | .literal _ _ => True
  | .look condition => condition.IgnoresCase
  | .cls members => Regex.IgnoresCase members.test

theorem ignoresCase_word (flags : Flags) : IgnoresCase flags.word := by
  unfold Flags.word
  split
  · exact CharClass.ignoresCase_shorthands .word (by simp [CharClass.shorthands])
  · exact CharClass.ignoresCase_shorthands .asciiWord (by simp [CharClass.shorthands])

theorem ignoresCase_of_wordLook? {flags : Flags} {name : String} {look : Look}
    (h : wordLook? flags name = some look) : look.IgnoresCase := by
  unfold wordLook? at h
  split at h
  all_goals cases h
  all_goals exact ignoresCase_word flags

theorem ignoresCase_of_readBoundary? {flags : Flags} {cs rest : List Char} {p : Primitive}
    (h : readBoundary? flags cs = some (p, rest)) : p.IgnoresCase := by
  unfold readBoundary? at h
  split at h
  · split at h
    · cases h
    · split at h
      · split at h
        · obtain ⟨look, hlook, heq⟩ := Option.map_eq_some_iff.mp h
          cases heq
          exact ignoresCase_of_wordLook? hlook
        · cases h
      · cases h
        exact ignoresCase_word flags
  · cases h
    exact ignoresCase_word flags

theorem ignoresCase_of_readCode? {flags : Flags} {width : Nat} {cs rest : List Char} {p : Primitive}
    (h : readCode? flags width cs = some (p, rest)) : p.IgnoresCase := by
  simp only [readCode?, Option.bind_eq_bind] at h
  split at h
  all_goals
    obtain ⟨⟨n, after⟩, _, hread⟩ := Option.bind_eq_some_iff.mp h
    obtain ⟨c, _, heq⟩ := Option.bind_eq_some_iff.mp hread
    cases heq
    trivial

theorem ignoresCase_of_shorthand {flags : Flags} {negated : Bool} {all ascii : CharClass}
    {cs rest : List Char} {p : Primitive}
    (hall : all ∈ CharClass.shorthands) (hascii : ascii ∈ CharClass.shorthands)
    (h : (flags.compl? negated (if flags.unicode then all else ascii)).map
      (fun cls => (Primitive.cls cls, cs)) = some (p, rest)) : p.IgnoresCase := by
  obtain ⟨cls, hcls, heq⟩ := Option.map_eq_some_iff.mp h
  cases heq
  refine ignoresCase_of_compl? ?_ hcls
  split
  · exact CharClass.ignoresCase_shorthands all hall
  · exact CharClass.ignoresCase_shorthands ascii hascii

section Reading

variable {library : Library} {flags : Flags} (hflags : flags.ignoreCase = true)

include hflags

theorem ignoresCase_close (cls : CharClass) : IgnoresCase (flags.close cls).test := by
  rw [Flags.close, if_pos hflags]
  split
  · exact CharClass.ignoresCase_closeCase cls
  · exact CharClass.ignoresCase_closeAsciiCase cls

/-- A class is closed under case where its bracket ends, whatever was read in it. -/
theorem ignoresCase_of_readBracket {fuel depth : Nat} {b : Bracket} {outer : List Bracket}
    {cs rest : List Char} {cls : CharClass}
    (h : readBracket library flags fuel b outer cs = some (cls, depth, rest)) :
    IgnoresCase cls.test := by
  -- Only a closing bracket returns a class; all else goes on with what was read.
  fun_induction readBracket library flags fuel b outer cs
  case case1 | case2 => cases h
  case case3 ih =>
    obtain ⟨named, _, hread⟩ := Option.bind_eq_some_iff.mp h
    exact ih named hread
  case case4 ih | case6 ih | case7 ih | case8 ih => exact ih h
  case case5 ih =>
    obtain ⟨closed, hclosed, hread⟩ := Option.bind_eq_some_iff.mp h
    split at hread
    · cases hread
      exact ignoresCase_of_compl? (ignoresCase_close hflags _) hclosed
    · exact ih _ _ _ hread
  case case9 ih =>
    obtain ⟨⟨item, after⟩, _, hread⟩ := Option.bind_eq_some_iff.mp h
    exact ih item after hread

theorem ignoresCase_of_readProperty? {negated : Bool} {cs rest : List Char} {p : Primitive}
    (h : readProperty? library flags negated cs = some (p, rest)) : p.IgnoresCase := by
  have hnamed {name after : List Char} (h : (library.property? name).bind (fun named =>
      (flags.compl? (negated != named.2) (flags.close named.1)).bind fun cls =>
        some (Primitive.cls cls, after)) = some (p, rest)) : p.IgnoresCase := by
    obtain ⟨named, _, hrest⟩ := Option.bind_eq_some_iff.mp h
    obtain ⟨cls, hcls, heq⟩ := Option.bind_eq_some_iff.mp hrest
    cases heq
    exact ignoresCase_of_compl? (ignoresCase_close hflags _) hcls
  simp only [readProperty?, Option.bind_eq_bind] at h
  split at h
  · cases h
  · obtain ⟨⟨name, after⟩, _, hread⟩ := Option.bind_eq_some_iff.mp h
    split at hread
    · cases hread
    · exact hnamed hread
  · split at h
    · cases h
    · obtain ⟨⟨name, after⟩, _, hread⟩ := Option.bind_eq_some_iff.mp h
      split at hread
      · cases hread
      · exact hnamed hread

theorem ignoresCase_of_readEscape? {cs rest : List Char} {p : Primitive}
    (h : readEscape? library flags cs = some (p, rest)) : p.IgnoresCase := by
  unfold readEscape? at h
  split at h
  · cases h
  · simp only at h
    split at h
    case h_1 | h_2 | h_3 => exact ignoresCase_of_readCode? h
    case h_4 | h_5 => exact ignoresCase_of_readProperty? hflags h
    case h_6 | h_7 | h_8 | h_9 | h_10 | h_11 =>
      exact ignoresCase_of_shorthand (by simp [CharClass.shorthands])
        (by simp [CharClass.shorthands]) h
    case h_20 => exact ignoresCase_of_readBoundary? h
    case h_21 | h_22 | h_23 =>
      cases h
      exact ignoresCase_word flags
    case h_24 =>
      split at h
      · cases h
        trivial
      · cases h
    -- The other escapes are characters and ends of the text.
    all_goals
      cases h
      trivial

theorem caseless_of_literal? {c : Char} {byte : Bool} {r : Regex}
    (h : literal? flags c byte = some r) : r.Caseless := by
  unfold literal? at h
  split at h
  · cases h
    exact ignoresCase_close hflags _
  · split at h
    · cases h
    · split at h
      · cases h
        exact ignoresCase_close hflags _
      · rename_i hwide
        cases h
        exact ignoresCase_single (Nat.not_lt.mp hwide)

theorem caseless_of_regex? {p : Primitive} {r : Regex} (hp : p.IgnoresCase)
    (h : p.regex? flags = some r) : r.Caseless := by
  cases p with
  | literal c byte => exact caseless_of_literal? hflags h
  | look condition =>
    cases h
    exact hp
  | cls members =>
    cases h
    exact hp

end Reading

theorem caseless_of_dot? {flags : Flags} {r : Regex} (h : dot? flags = some r) : r.Caseless := by
  unfold dot? at h
  split at h
  · cases h
  · split at h
    · cases h
      exact CharClass.ignoresCase_compl fun _ => rfl
    · split at h
      all_goals
        cases h
        exact CharClass.ignoresCase_compl (ignoresCase_of_ascii (by decide))

/-! ## Groups -/

def Item.Caseless : Item → Prop
  | .expr r _ => r.Caseless
  | .switches => True

/-- Whether no part of a group tells the two cases of a letter apart. -/
structure Group.Caseless (g : Group) : Prop where
  before : ∀ alternative ∈ g.before, alternative.1.Caseless
  items : ∀ item ∈ g.items, item.Caseless

theorem caseless_concat {items : List Item} (h : ∀ item ∈ items, item.Caseless) :
    (Group.concat items).1.Caseless := by
  have hgetD {r : Option Regex} (hr : ∀ e ∈ r, e.Caseless) : (r.getD .empty).Caseless := by
    cases r with
    | none => trivial
    | some e => exact hr e rfl
  refine hgetD (List.foldlRecOn
    (motive := fun acc : Option Regex × Nat × Nat => ∀ e ∈ acc.1, e.Caseless) items _ nofun ?_)
  rintro ⟨r, depth, count⟩ hr item hitem
  cases item with
  | switches => exact hr
  | expr first d =>
    cases r with
    | none => exact fun e he => Option.some.inj he ▸ h _ hitem
    | some r => exact fun e he => Option.some.inj he ▸ ⟨h _ hitem, hr r rfl⟩

namespace Group.Caseless

variable {g : Group} (h : g.Caseless)

include h

theorem alternate : g.alternate.Caseless :=
  ⟨List.forall_mem_cons.mpr ⟨caseless_concat h.items, h.before⟩, List.forall_mem_nil _⟩

theorem push {item : Item} (hitem : item.Caseless) : (g.push item).Caseless :=
  ⟨h.before, List.forall_mem_cons.mpr ⟨hitem, h.items⟩⟩

theorem repeated? {least : Nat} {most : Option Nat} {next : Group}
    (hnext : g.repeated? least most = some next) : next.Caseless := by
  unfold Group.repeated? at hnext
  split at hnext
  · rename_i r depth items hitems
    cases hnext
    have hall := h.items
    rw [hitems] at hall
    obtain ⟨hlast, hothers⟩ := List.forall_mem_cons.mp hall
    exact ⟨h.before, List.forall_mem_cons.mpr ⟨hlast, hothers⟩⟩
  · cases hnext

theorem expr : g.expr.1.Caseless := by
  have hlast := caseless_concat h.items
  simp only [Group.expr]
  split
  · exact hlast
  · refine List.foldlRecOn (motive := fun acc : Regex × Nat => acc.1.Caseless) g.before _ hlast ?_
    rintro ⟨r, depth⟩ hr ⟨first, d⟩ hfirst
    exact ⟨h.before _ hfirst, hr⟩

end Group.Caseless

/-! ## Reading -/

/-- Whether nothing that was read tells the two cases of a letter apart. -/
structure Reading.Caseless (s : Reading) : Prop where
  group : s.group.Caseless
  outer : ∀ g ∈ s.outer, g.Caseless

namespace Reading

/-- The states in which the parts of a pattern are read. -/
def states (library : Library) : Nat → Reading → List Char → List Reading
  | 0, _, _ => []
  | fuel + 1, s, cs =>
    match s.flags.skip cs with
    | [] => []
    | c :: cs => s :: match s.step? library c cs with
      | some (next, rest) => states library fuel next rest
      | none => []

variable {library : Library} {s next : Reading}

theorem Caseless.push (h : s.Caseless) {r : Regex} (hr : r.Caseless) (depth : Nat) :
    (s.push r depth).Caseless :=
  ⟨h.group.push hr, h.outer⟩

theorem Caseless.openGroup (h : s.Caseless) (inner : Flags) : (s.openGroup inner).Caseless :=
  ⟨⟨List.forall_mem_nil _, List.forall_mem_nil _⟩, List.forall_mem_cons.mpr ⟨h.group, h.outer⟩⟩

theorem Caseless.closeGroup? (h : s.Caseless) (hnext : s.closeGroup? = some next) :
    next.Caseless := by
  unfold Reading.closeGroup? at hnext
  split at hnext
  · cases hnext
  · rename_i outermost outer houter
    cases hnext
    have hall := h.outer
    rw [houter] at hall
    obtain ⟨hfirst, hothers⟩ := List.forall_mem_cons.mp hall
    exact ⟨hfirst.push h.group.expr, hothers⟩

theorem Caseless.repeated? (h : s.Caseless) {least : Nat} {most : Option Nat}
    {cs rest : List Char} (hnext : s.repeated? least most cs = some (next, rest)) :
    next.Caseless := by
  obtain ⟨group, hgroup, heq⟩ := Option.map_eq_some_iff.mp hnext
  cases heq
  exact ⟨h.group.repeated? hgroup, h.outer⟩

theorem Caseless.readOpen? (h : s.Caseless) {cs rest : List Char}
    (hnext : s.readOpen? cs = some (next, rest)) : next.Caseless := by
  have hnamed {cs : List Char} (hnext : ((readGroupName? [] cs).bind fun named =>
      if s.names.contains named.1 then none
      else some ({ s with names := named.1 :: s.names }.openGroup s.flags, named.2)) =
        some (next, rest)) : next.Caseless := by
    obtain ⟨named, _, hopen⟩ := Option.bind_eq_some_iff.mp hnext
    split at hopen
    · cases hopen
    · cases hopen
      have hmarked : Caseless { s with names := named.1 :: s.names } := ⟨h.group, h.outer⟩
      exact hmarked.openGroup s.flags
  unfold Reading.readOpen? at hnext
  simp only at hnext
  split at hnext
  case h_1 | h_2 | h_3 | h_4 => cases hnext
  case h_5 | h_6 => exact hnamed hnext
  case h_7 =>
    split at hnext
    · split at hnext
      · cases hnext
        exact ⟨h.group.push trivial, h.outer⟩
      · cases hnext
    · cases hnext
      exact h.openGroup _
    · cases hnext
  case h_8 =>
    cases hnext
    exact h.openGroup s.flags

/-- While the switch is on, what is read next does not tell the two cases of a letter apart. -/
theorem Caseless.step? (h : s.Caseless) (hswitch : s.flags.ignoreCase = true) {c : Char}
    {cs rest : List Char} (hnext : s.step? library c cs = some (next, rest)) : next.Caseless := by
  unfold Reading.step? at hnext
  split at hnext
  case h_1 => exact h.readOpen? hnext
  case h_2 =>
    obtain ⟨closed, hclosed, heq⟩ := Option.map_eq_some_iff.mp hnext
    cases heq
    exact h.closeGroup? hclosed
  case h_3 =>
    cases hnext
    exact ⟨h.group.alternate, h.outer⟩
  case h_4 =>
    obtain ⟨⟨cls, depth, after⟩, hclass, heq⟩ := Option.map_eq_some_iff.mp hnext
    cases heq
    exact h.push (r := .one cls) (ignoresCase_of_readBracket hswitch hclass) depth
  case h_5 | h_6 | h_7 => exact h.repeated? hnext
  case h_8 =>
    obtain ⟨⟨⟨least, most⟩, after⟩, _, hrepeat⟩ := Option.bind_eq_some_iff.mp hnext
    exact h.repeated? hrepeat
  case h_9 =>
    obtain ⟨r, hr, heq⟩ := Option.map_eq_some_iff.mp hnext
    cases heq
    exact h.push (caseless_of_dot? hr) 0
  case h_10 | h_11 =>
    cases hnext
    refine h.push ?_ 0
    split <;> trivial
  case h_12 =>
    simp only [Option.bind_eq_bind] at hnext
    obtain ⟨⟨p, after⟩, hp, hrest⟩ := Option.bind_eq_some_iff.mp hnext
    obtain ⟨r, hr, heq⟩ := Option.bind_eq_some_iff.mp hrest
    cases heq
    exact h.push (caseless_of_regex? hswitch (ignoresCase_of_readEscape? hswitch hp) hr) 0
  case h_13 =>
    obtain ⟨r, hr, heq⟩ := Option.map_eq_some_iff.mp hnext
    cases heq
    exact h.push (caseless_of_literal? hswitch hr) 0

/-- If the switch is on wherever a part is read, nothing that was read in the end tells the two
cases of a letter apart. -/
theorem Caseless.run? (h : s.Caseless) {fuel : Nat} {cs : List Char}
    (hswitch : ∀ t ∈ states library fuel s cs, t.flags.ignoreCase = true)
    (hlast : Reading.run? library fuel s cs = some next) : next.Caseless := by
  -- Both `run?` and `states` go through the same states, on the same fuel.
  induction fuel generalizing s cs with
  | zero => cases hlast
  | succ fuel ih =>
    unfold Reading.run? at hlast
    unfold states at hswitch
    split at hlast
    · cases hlast
      exact h
    · rename_i c cs hskip
      obtain ⟨⟨after, rest⟩, hstep, hrun⟩ := Option.bind_eq_some_iff.mp hlast
      rw [hskip] at hswitch
      simp only [hstep, List.forall_mem_cons] at hswitch
      exact ih (h.step? hswitch.1 hstep) hswitch.2 hrun

end Reading

def states (library : Library) (pattern : String) : List Reading :=
  let flags : Flags := { ignoreCase := true }
  let start : Reading := { flags, group := { outerFlags := flags } }
  start.states library (pattern.length + 1) pattern.toList

/-- A pattern that leaves the switch for letter case on is one in which case does not matter. -/
theorem caseless_of_parse? {library : Library} {pattern : String} {r : Regex}
    (hswitch : ∀ s ∈ states library pattern, s.flags.ignoreCase = true)
    (h : parse? library pattern = some r) : r.Caseless := by
  unfold parse? at h
  obtain ⟨last, hlast, hr⟩ := Option.bind_eq_some_iff.mp h
  have hcaseless : last.Caseless := by
    refine Reading.Caseless.run? ⟨⟨?_, ?_⟩, ?_⟩ hswitch hlast
    all_goals exact List.forall_mem_nil _
  simp only at hr
  split at hr
  · cases hr
    exact hcaseless.group.expr
  · cases hr

end RequestTracing.Regex
