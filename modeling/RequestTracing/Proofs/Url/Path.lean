import RequestTracing.Proofs.Text.Pieces
import RequestTracing.Proofs.Url.Encoded
/-!
Paths of URLs in normal form. Their segments are encoded and name no directory by dots, so nothing
changes when the path is brought to normal form again.
-/
namespace RequestTracing.Url

/-- A path of segments that each end with a slash, and a last one. -/
def joinSegments (segments : List (List Char)) (last : List Char) : List Char :=
  segments.flatMap (· ++ ['/']) ++ last

theorem joinSegments_eq_intercalate (segments : List (List Char)) (last : List Char) :
    joinSegments segments last = ['/'].intercalate (segments ++ [last]) := by
  induction segments with
  | nil => simp [joinSegments]
  | cons segment segments ih =>
    rw [List.cons_append, List.intercalate_cons_of_ne_nil (by simp), ← ih]
    simp [joinSegments]

/-! ## Segments that stay -/

/-- Whether a segment is kept when dots are resolved. -/
def IsKept (segment : List Char) : Prop :=
  isDot segment = false ∧ isDoubleDot segment = false

theorem mem_leaveSegment {done : List (List Char)} {segment : List Char}
    (h : segment ∈ leaveSegment done) : segment ∈ done := by
  unfold leaveSegment at h
  split at h
  · exact h
  · split at h
    · exact h
    · exact List.mem_cons_of_mem _ h

theorem mem_resolveSegments (done segments : List (List Char)) :
    (∀ segment ∈ (resolveSegments done segments).1,
      segment ∈ done ∨ segment ∈ segments ∧ IsKept segment) ∧
    ((resolveSegments done segments).2 = [] ∨
      (resolveSegments done segments).2 ∈ segments ∧
        IsKept (resolveSegments done segments).2) := by
  fun_induction resolveSegments done segments with
  | case1 done => exact ⟨fun _ h => .inl h, .inl rfl⟩
  | case2 done last hdots => exact ⟨fun _ h => .inl (mem_leaveSegment h), .inl rfl⟩
  | case3 done last hdots hdot => exact ⟨fun _ h => .inl h, .inl rfl⟩
  | case4 done last hdots hdot =>
    exact ⟨fun _ h => .inl h, .inr ⟨List.mem_singleton_self last, by simpa using hdot,
      by simpa using hdots⟩⟩
  | case5 done segment rest hrest hdots ih =>
    exact ⟨fun s h => (ih.1 s h).imp mem_leaveSegment (And.imp_left (List.mem_cons_of_mem _)),
      ih.2.imp_right (And.imp_left (List.mem_cons_of_mem _))⟩
  | case6 done segment rest hrest hdots hdot ih =>
    exact ⟨fun s h => (ih.1 s h).imp_right (And.imp_left (List.mem_cons_of_mem _)),
      ih.2.imp_right (And.imp_left (List.mem_cons_of_mem _))⟩
  | case7 done segment rest hrest hdots hdot ih =>
    have hkept : IsKept segment := ⟨by simpa using hdot, by simpa using hdots⟩
    refine ⟨fun s h => ?_, ih.2.imp_right (And.imp_left (List.mem_cons_of_mem _))⟩
    rcases ih.1 s h with h | ⟨h, hs⟩
    · rcases List.mem_cons.mp h with rfl | h
      · exact .inr ⟨List.mem_cons_self, hkept⟩
      · exact .inl h
    · exact .inr ⟨List.mem_cons_of_mem _ h, hs⟩

theorem resolveSegments_of_kept (done : List (List Char)) {segments : List (List Char)}
    {last : List Char} (hsegments : ∀ segment ∈ segments, IsKept segment) (hlast : IsKept last) :
    resolveSegments done (segments ++ [last]) = (segments.reverse ++ done, last) := by
  induction segments generalizing done with
  | nil => simp [resolveSegments, hlast.1, hlast.2]
  | cons segment segments ih =>
    obtain ⟨hsegment, hrest⟩ := List.forall_mem_cons.mp hsegments
    have hnext : segments ++ [last] ≠ [] := by simp
    rw [List.cons_append, resolveSegments.eq_3 _ _ _ hnext, hsegment.1, hsegment.2]
    simp [ih (segment :: done) hrest]

/-! ## Normal form -/

/-- Whether a segment stays as it is in a path. In special schemes backslashes are slashes. -/
structure IsPlainSegment (special : Bool) (segment : List Char) : Prop where
  written : ∀ c ∈ segment, IsWritten isPathEncoded c
  slashless : '/' ∉ segment
  backslashless : special = true → '\\' ∉ segment
  kept : IsKept segment

/-- The paths in normal form: those without any segment, which only schemes that are not special
have, and those of plain segments after slashes. -/
inductive IsNormalPath (special : Bool) : List Char → Prop
  | empty (h : special = false) : IsNormalPath special []
  | joined {segments : List (List Char)} (hne : segments ≠ [])
      (h : ∀ segment ∈ segments, IsPlainSegment special segment) :
      IsNormalPath special ('/' :: ['/'].intercalate segments)

def resolvedPath (below : List Char) : List Char :=
  let resolved := resolveSegments [] ((Text.pieces '/' below).map fun segment =>
    (percentEncodeChars isPathEncoded segment).toList)
  '/' :: joinSegments resolved.1.reverse resolved.2

def slashed (special : Bool) (cs : List Char) : List Char :=
  if special then cs.map fun c => if c = '\\' then '/' else c else cs

def belowSlash (cs : List Char) : List Char :=
  match cs with
  | '/' :: rest => rest
  | _ => cs

theorem normalPath_eq (special : Bool) (cs : List Char) : normalPath special cs =
    if (slashed special cs).isEmpty && !special then ""
    else String.ofList (resolvedPath (belowSlash (slashed special cs))) :=
  rfl

section Special

variable {special : Bool}

theorem not_mem_belowSlash (cs : List Char) :
    special = true → '\\' ∉ belowSlash (slashed special cs) := by
  intro hspecial hmem
  have hslashed : '\\' ∈ slashed special cs := by
    unfold belowSlash at hmem
    split at hmem
    · rename_i heq
      exact heq ▸ List.mem_cons_of_mem _ hmem
    · exact hmem
  rw [slashed, if_pos hspecial] at hslashed
  obtain ⟨c, -, hc⟩ := List.mem_map.mp hslashed
  split at hc
  · exact absurd hc (by decide)
  · rename_i hne
    exact hne hc

theorem slashed_eq_self {cs : List Char} (h : special = true → '\\' ∉ cs) :
    slashed special cs = cs := by
  unfold slashed
  split
  · rename_i hspecial
    exact (List.map_congr_left fun c hc =>
      if_neg (ne_of_mem_of_not_mem hc (h hspecial))).trans (List.map_id _)
  · rfl

theorem isPlainSegment_nil : IsPlainSegment special [] :=
  ⟨by simp, by simp, by simp, rfl, rfl⟩

theorem isNormalPath_resolvedPath {below : List Char} (h : special = true → '\\' ∉ below) :
    IsNormalPath special (resolvedPath below) := by
  have hplain {segment : List Char} (hkept : IsKept segment)
      (hmem : segment ∈ (Text.pieces '/' below).map fun piece =>
        (percentEncodeChars isPathEncoded piece).toList) : IsPlainSegment special segment := by
    obtain ⟨piece, hpiece, rfl⟩ := List.mem_map.mp hmem
    refine ⟨fun c hc => (of_mem_percentEncodeChars isEncoding_path hc).1, fun hc => ?_,
      fun hspecial hc => ?_, hkept⟩
    · rcases (of_mem_percentEncodeChars isEncoding_path hc).2 with hc | hc
      · exact Text.not_mem_of_mem_pieces hpiece hc
      · exact absurd hc (by decide)
    · rcases (of_mem_percentEncodeChars isEncoding_path hc).2 with hc | hc
      · exact h hspecial (Text.mem_of_mem_pieces hpiece hc)
      · exact absurd hc (by decide)
  obtain ⟨hdone, hlast⟩ := mem_resolveSegments [] ((Text.pieces '/' below).map fun piece =>
    (percentEncodeChars isPathEncoded piece).toList)
  rw [resolvedPath, joinSegments_eq_intercalate]
  refine .joined (by simp) fun segment hsegment => ?_
  rcases List.mem_append.mp hsegment with hsegment | hsegment
  · rcases hdone segment (List.mem_reverse.mp hsegment) with hnil | ⟨hmem, hkept⟩
    · exact absurd hnil List.not_mem_nil
    · exact hplain hkept hmem
  · rw [List.mem_singleton.mp hsegment]
    rcases hlast with hnil | ⟨hmem, hkept⟩
    · exact hnil ▸ isPlainSegment_nil
    · exact hplain hkept hmem

theorem isNormalPath_normalPath (special : Bool) (cs : List Char) :
    IsNormalPath special (normalPath special cs).toList := by
  rw [normalPath_eq]
  split
  · rename_i hempty
    exact .empty (by simpa using (Bool.and_eq_true_iff.mp hempty).2)
  · rw [String.toList_ofList]
    exact isNormalPath_resolvedPath (not_mem_belowSlash cs)

theorem IsNormalPath.normalPath_eq_self {cs : List Char} (h : IsNormalPath special cs) :
    normalPath special cs = String.ofList cs := by
  cases h with
  | empty h => simp [normalPath_eq, slashed, h]
  | @joined segments hne h =>
    have hencoded : segments.map (fun segment =>
        (percentEncodeChars isPathEncoded segment).toList) = segments := by
      refine (List.map_congr_left fun segment hsegment => ?_).trans (List.map_id _)
      rw [percentEncodeChars_eq_self isEncoding_path (h segment hsegment).written,
        String.toList_ofList, id]
    have hclean : special = true → '\\' ∉ '/' :: ['/'].intercalate segments := by
      intro hspecial hmem
      rcases Text.mem_intercalate ((List.mem_cons.mp hmem).resolve_left (by decide)) with
        heq | ⟨segment, hsegment, hc⟩
      · exact absurd heq (by decide)
      · exact (h segment hsegment).backslashless hspecial hc
    rw [normalPath_eq, slashed_eq_self hclean, belowSlash, resolvedPath,
      Text.pieces_intercalate (fun segment hs => (h segment hs).slashless) hne, hencoded]
    obtain ⟨front, last, rfl⟩ : ∃ front last, segments = front ++ [last] :=
      ⟨_, _, (List.dropLast_concat_getLast hne).symm⟩
    rw [resolveSegments_of_kept [] (fun s hs => (h s (List.mem_append_left _ hs)).kept)
      (h last (by simp)).kept, List.append_nil, List.reverse_reverse, joinSegments_eq_intercalate]
    rfl

theorem IsNormalPath.written {cs : List Char} (h : IsNormalPath special cs) :
    ∀ c ∈ cs, IsWritten isPathEncoded c := by
  cases h with
  | empty => simp
  | @joined segments _ h =>
    intro c hc
    have hslash : IsWritten isPathEncoded '/' := by decide
    rcases List.mem_cons.mp hc with rfl | hc
    · exact hslash
    · rcases Text.mem_intercalate hc with rfl | ⟨segment, hsegment, hc⟩
      · exact hslash
      · exact (h segment hsegment).written c hc

theorem IsNormalPath.head {cs : List Char} (h : IsNormalPath special cs) :
    ∀ c ∈ cs.head?, c = '/' := by
  cases h with
  | empty => simp
  | joined => simp

end Special

end RequestTracing.Url
