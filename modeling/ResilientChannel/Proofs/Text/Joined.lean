import Mathlib.Data.List.Basic

/-!
Texts joined by a separator, and parts read one by one.

`mem_of_mem_intercalate` says where the characters of a joined text come from; `mapM_eq_some` and
`exists_of_mapM_eq_some` say what it takes to read every part, and what it gives.
-/

namespace ResilientChannel.Text

variable {α β : Type}

lemma mem_of_mem_intercalate {sep : List α} {parts : List (List α)} {x : α}
    (h : x ∈ sep.intercalate parts) : x ∈ sep ∨ ∃ part ∈ parts, x ∈ part := by
  induction parts with
  | nil => simp at h
  | cons part parts ih =>
    cases parts with
    | nil =>
      rw [List.intercalate_singleton] at h
      exact .inr ⟨part, List.mem_cons_self, h⟩
    | cons next parts =>
      rw [List.intercalate_cons_cons, List.mem_append, List.mem_append] at h
      rcases h with (h | h) | h
      · exact .inr ⟨part, List.mem_cons_self, h⟩
      · exact .inl h
      · exact (ih h).imp_right fun ⟨p, hp, hx⟩ => ⟨p, List.mem_cons_of_mem _ hp, hx⟩

lemma mem_intercalate {sep part : List α} {parts : List (List α)} (hpart : part ∈ parts) {x : α}
    (hx : x ∈ part) : x ∈ sep.intercalate parts := by
  induction parts with
  | nil => cases hpart
  | cons first parts ih =>
    cases parts with
    | nil =>
      rw [List.mem_singleton.mp hpart] at hx
      rwa [List.intercalate_singleton]
    | cons next parts =>
      rw [List.intercalate_cons_cons, List.mem_append]
      rcases List.mem_cons.mp hpart with rfl | hpart
      · exact .inl (List.mem_append_left _ hx)
      · exact .inr (ih hpart)

/-- The parts of a text are made of its characters. -/
lemma mem_of_mem_splitOn [BEq α] [LawfulBEq α] {sep x : α} {text part : List α}
    (hpart : part ∈ text.splitOn sep) (hx : x ∈ part) : x ∈ text := by
  have hmem : x ∈ [sep].intercalate (text.splitOn sep) := mem_intercalate hpart hx
  rwa [List.intercalate_splitOn] at hmem

lemma mapM_eq_some {f : α → Option β} {g : α → β} {l : List α} (h : ∀ x ∈ l, f x = some (g x)) :
    l.mapM f = some (l.map g) := by
  induction l with
  | nil => rfl
  | cons x l ih =>
    rw [List.mapM_cons, h x List.mem_cons_self, ih fun y hy => h y (List.mem_cons_of_mem x hy)]
    rfl

lemma exists_of_mapM_eq_some {f : α → Option β} {l : List α} {r : List β} (h : l.mapM f = some r)
    {y : β} (hy : y ∈ r) : ∃ x ∈ l, f x = some y := by
  induction l generalizing r with
  | nil =>
    cases h
    cases hy
  | cons x l ih =>
    rw [List.mapM_cons] at h
    obtain ⟨z, hz, h⟩ := Option.bind_eq_some_iff.mp h
    obtain ⟨zs, hzs, h⟩ := Option.bind_eq_some_iff.mp h
    cases h
    rcases List.mem_cons.mp hy with rfl | hy
    · exact ⟨x, List.mem_cons_self, hz⟩
    · obtain ⟨x', hx', hfx'⟩ := ih hzs hy
      exact ⟨x', List.mem_cons_of_mem x hx', hfx'⟩

end ResilientChannel.Text
