import Mathlib.Data.List.Forall2
import RequestTracing.Text.Pieces
/-!
The parts of a text between separators. Texts are their parts with the separator between them, and
parts without the separator are found again.
-/
namespace RequestTracing.Text

variable {separator : Char}

theorem mapM_eq_some_iff {α β : Type} {f : α → Option β} {xs : List α} {ys : List β} :
    xs.mapM f = some ys ↔ List.Forall₂ (fun x y => f x = some y) xs ys := by
  induction xs generalizing ys with
  | nil => simp [eq_comm]
  | cons x xs ih =>
    rw [List.mapM_cons, List.forall₂_cons_left_iff]
    simp only [Option.bind_eq_bind, Option.bind_eq_some_iff, Option.pure_def, Option.some.injEq, ih]
    exact exists_congr fun y =>
      ⟨fun ⟨hy, later, hlater, heq⟩ => ⟨later, hy, hlater, heq.symm⟩,
        fun ⟨later, hy, hlater, heq⟩ => ⟨hy, later, hlater, heq.symm⟩⟩

theorem mapM_eq_some_map {α β : Type} {f : α → Option β} {g : α → β} {xs : List α}
    (h : ∀ x ∈ xs, f x = some (g x)) : xs.mapM f = some (xs.map g) :=
  mapM_eq_some_iff.mpr (List.forall₂_map_right_iff.mpr (List.forall₂_same.mpr h))

theorem forall_mem_of_mapM_eq_some {α β : Type} {f : α → Option β} {P : β → Prop} {xs : List α}
    {ys : List β} (h : xs.mapM f = some ys) (hf : ∀ x ∈ xs, ∀ y, f x = some y → P y) :
    ∀ y ∈ ys, P y := by
  have hread := (List.forall₂_and_left xs ys).mpr ⟨fun x hx => hx, mapM_eq_some_iff.mp h⟩
  have hall := (hread.imp fun x y hxy => hf x hxy.1 y hxy.2).flip
  exact ((List.forall₂_and_left (R := fun _ _ => True) ys xs).mp
    (hall.imp fun y x hy => ⟨hy, trivial⟩)).1

theorem pieces_eq_splitOn (separator : Char) (cs : List Char) :
    pieces separator cs = cs.splitOn separator := by
  induction cs with
  | nil => rfl
  | cons c cs ih =>
    obtain ⟨first, rest, hsplit⟩ := List.exists_cons_of_ne_nil (List.splitOn_ne_nil separator cs)
    by_cases hc : c = separator <;>
      simp [pieces, ih, List.splitOn_cons_eq_if_modifyHead, hc, hsplit]

theorem intercalate_pieces (separator : Char) (cs : List Char) :
    [separator].intercalate (pieces separator cs) = cs := by
  rw [pieces_eq_splitOn, List.intercalate_splitOn]

theorem pieces_intercalate {parts : List (List Char)} (hparts : ∀ part ∈ parts, separator ∉ part)
    (hne : parts ≠ []) : pieces separator ([separator].intercalate parts) = parts := by
  rw [pieces_eq_splitOn, List.splitOn_intercalate separator hparts hne]

theorem mem_intercalate {parts : List (List Char)} {c : Char} :
    c ∈ [separator].intercalate parts → c = separator ∨ ∃ part ∈ parts, c ∈ part := by
  induction parts with
  | nil => exact fun h => absurd h List.not_mem_nil
  | cons part parts ih =>
    intro h
    by_cases hne : parts = []
    · subst hne
      exact .inr ⟨part, List.mem_cons_self, by simpa using h⟩
    · rw [List.intercalate_cons_of_ne_nil hne, List.append_assoc, List.mem_append,
        List.singleton_append, List.mem_cons] at h
      rcases h with h | h | h
      · exact .inr ⟨part, List.mem_cons_self, h⟩
      · exact .inl h
      · exact (ih h).imp_right fun ⟨later, hmem, hc⟩ => ⟨later, List.mem_cons_of_mem part hmem, hc⟩

theorem mem_intercalate_of_mem {parts : List (List Char)} {part : List Char} {c : Char}
    (hpart : part ∈ parts) (hc : c ∈ part) : c ∈ [separator].intercalate parts := by
  induction parts with
  | nil => exact absurd hpart List.not_mem_nil
  | cons first parts ih =>
    by_cases hne : parts = []
    · subst hne
      rw [List.intercalate_singleton]
      exact List.mem_singleton.mp hpart ▸ hc
    · rw [List.intercalate_cons_of_ne_nil hne, List.append_assoc]
      rcases List.mem_cons.mp hpart with rfl | hpart
      · exact List.mem_append_left _ hc
      · exact List.mem_append_right _ (List.mem_append_right _ (ih hpart))

theorem exists_intercalate_cons (separator : Char) (part : List Char) (parts : List (List Char)) :
    ∃ rest, [separator].intercalate (part :: parts) = part ++ rest := by
  cases parts with
  | nil => exact ⟨[], by simp⟩
  | cons next parts =>
    exact ⟨_, by rw [List.intercalate_cons_cons, List.append_assoc]⟩

theorem not_mem_of_mem_pieces {cs piece : List Char} (h : piece ∈ pieces separator cs) :
    separator ∉ piece := by
  induction cs generalizing piece with
  | nil => exact List.mem_singleton.mp h ▸ List.not_mem_nil
  | cons c cs ih =>
    rw [pieces_eq_splitOn, List.splitOn_cons_eq_if_modifyHead, ← pieces_eq_splitOn] at h
    split at h
    · rcases List.mem_cons.mp h with rfl | h
      · exact List.not_mem_nil
      · exact ih h
    · rename_i hc
      cases hpieces : pieces separator cs with
      | nil => simp [hpieces] at h
      | cons first rest =>
        rw [hpieces, List.modifyHead_cons] at h
        rcases List.mem_cons.mp h with rfl | h
        · intro hmem
          rcases List.mem_cons.mp hmem with rfl | hmem
          · simp at hc
          · exact ih (hpieces ▸ List.mem_cons_self) hmem
        · exact ih (hpieces ▸ List.mem_cons_of_mem first h)

theorem mem_of_mem_pieces {cs piece : List Char} (h : piece ∈ pieces separator cs) {c : Char}
    (hc : c ∈ piece) : c ∈ cs :=
  intercalate_pieces separator cs ▸ mem_intercalate_of_mem h hc

theorem cut?_eq_none {cs : List Char} (h : separator ∉ cs) : cut? separator cs = none := by
  induction cs with
  | nil => rfl
  | cons c cs ih =>
    obtain ⟨hc, hcs⟩ := not_or.mp fun hmem => h (List.mem_cons.mpr hmem)
    rw [cut?, if_neg (Ne.symm hc), ih hcs]
    rfl

end RequestTracing.Text
