import Mathlib.Data.List.Induction

/-!
# Lists without repeats

`List.eraseDups` keeps each element at its first occurrence.  Everything follows from what it does
with one more element at the end, `eraseDups_concat`: the element is kept if it is new.
-/

set_option autoImplicit false

namespace SqlTables

variable {α β : Type} [BEq α] [LawfulBEq α] [BEq β] [LawfulBEq β]

theorem eraseDups_concat_of_mem {a : α} {l : List α} (h : a ∈ l) :
    (l ++ [a]).eraseDups = l.eraseDups := by
  simp [List.eraseDups_append, List.removeAll, h]

theorem eraseDups_concat_of_not_mem {a : α} {l : List α} (h : a ∉ l) :
    (l ++ [a]).eraseDups = l.eraseDups ++ [a] := by
  simp [List.eraseDups_append, List.removeAll, h, List.eraseDups_cons]

theorem nodup_eraseDups (l : List α) : l.eraseDups.Nodup := by
  induction l using List.reverseRecOn with
  | nil => simp
  | append_singleton l a ih =>
    by_cases ha : a ∈ l
    · rw [eraseDups_concat_of_mem ha]
      exact ih
    · rw [eraseDups_concat_of_not_mem ha]
      refine List.nodup_append.2 ⟨ih, by simp, ?_⟩
      intro b hb d hd heq
      rw [List.mem_singleton.1 hd] at heq
      exact ha (heq ▸ List.mem_eraseDups.1 hb)

theorem eraseDups_of_nodup {l : List α} (h : l.Nodup) : l.eraseDups = l := by
  induction l using List.reverseRecOn with
  | nil => rfl
  | append_singleton l a ih =>
    obtain ⟨hl, _, hdisjoint⟩ := List.nodup_append.1 h
    rw [eraseDups_concat_of_not_mem fun ha => hdisjoint a ha a (by simp) rfl, ih hl]

/-- Choosing elements may come before or after erasing repeats. -/
theorem filter_eraseDups (p : α → Bool) (l : List α) :
    l.eraseDups.filter p = (l.filter p).eraseDups := by
  induction l using List.reverseRecOn with
  | nil => rfl
  | append_singleton l a ih =>
    rw [List.filter_append]
    by_cases ha : a ∈ l <;> by_cases hp : p a = true
    · rw [eraseDups_concat_of_mem ha, ih, List.filter_cons_of_pos hp, List.filter_nil,
        eraseDups_concat_of_mem (List.mem_filter.2 ⟨ha, hp⟩)]
    · rw [eraseDups_concat_of_mem ha, ih, List.filter_cons_of_neg hp, List.filter_nil,
        List.append_nil]
    · rw [eraseDups_concat_of_not_mem ha, List.filter_append, ih, List.filter_cons_of_pos hp,
        List.filter_nil, eraseDups_concat_of_not_mem fun h => ha (List.mem_filter.1 h).1]
    · rw [eraseDups_concat_of_not_mem ha, List.filter_append, ih, List.filter_cons_of_neg hp,
        List.filter_nil, List.append_nil, List.append_nil]

/-- Repeats may be erased before a map as well as after it. -/
theorem eraseDups_map_eraseDups (f : α → β) (l : List α) :
    (l.eraseDups.map f).eraseDups = (l.map f).eraseDups := by
  induction l using List.reverseRecOn with
  | nil => rfl
  | append_singleton l a ih =>
    by_cases ha : a ∈ l
    · rw [eraseDups_concat_of_mem ha, ih, List.map_append, List.map_singleton,
        eraseDups_concat_of_mem (List.mem_map_of_mem ha)]
    · have hmem : f a ∈ l.eraseDups.map f ↔ f a ∈ l.map f := by
        simp only [List.mem_map, List.mem_eraseDups]
      rw [eraseDups_concat_of_not_mem ha, List.map_append, List.map_append, List.map_singleton]
      by_cases hf : f a ∈ l.map f
      · rw [eraseDups_concat_of_mem (hmem.2 hf), ih, eraseDups_concat_of_mem hf]
      · rw [eraseDups_concat_of_not_mem (hmem.not.2 hf), ih, eraseDups_concat_of_not_mem hf]

/-- Repeats may be erased in both parts of a list before they are erased in the whole. -/
theorem eraseDups_append_eraseDups (l m : List α) :
    (l.eraseDups ++ m.eraseDups).eraseDups = (l ++ m).eraseDups := by
  induction m using List.reverseRecOn with
  | nil =>
    rw [List.eraseDups_nil, List.append_nil, List.append_nil]
    exact eraseDups_of_nodup (nodup_eraseDups l)
  | append_singleton m a ih =>
    by_cases ha : a ∈ m
    · rw [eraseDups_concat_of_mem ha, ih, ← List.append_assoc,
        eraseDups_concat_of_mem (List.mem_append_right l ha)]
    · have hmem : a ∈ l.eraseDups ++ m.eraseDups ↔ a ∈ l ++ m := by
        simp only [List.mem_append, List.mem_eraseDups]
      rw [eraseDups_concat_of_not_mem ha, ← List.append_assoc, ← List.append_assoc]
      by_cases hl : a ∈ l ++ m
      · rw [eraseDups_concat_of_mem (hmem.2 hl), ih, eraseDups_concat_of_mem hl]
      · rw [eraseDups_concat_of_not_mem (hmem.not.2 hl), ih, eraseDups_concat_of_not_mem hl]

/-- What is there already adds nothing. -/
theorem eraseDups_append_of_subset {l m : List α} (h : m ⊆ l) :
    (l ++ m).eraseDups = l.eraseDups := by
  induction m using List.reverseRecOn with
  | nil => rw [List.append_nil]
  | append_singleton m a ih =>
    have hm : m ⊆ l := fun b hb => h (List.mem_append_left [a] hb)
    have ha : a ∈ l ++ m := List.mem_append_left m (h (by simp))
    rw [← List.append_assoc, eraseDups_concat_of_mem ha, ih hm]

/-- Elements without their repeats stand in the order of their first occurrences. -/
theorem pairwise_idxOf_eraseDups (l : List α) :
    l.eraseDups.Pairwise fun a b => l.idxOf a < l.idxOf b := by
  induction l using List.reverseRecOn with
  | nil => simp
  | append_singleton l a ih =>
    -- a further element moves no first occurrence
    have hkeep {b : α} (hb : b ∈ l.eraseDups) : (l ++ [a]).idxOf b = l.idxOf b := by
      rw [List.idxOf_append, if_pos (List.mem_eraseDups.1 hb)]
    have ih' : l.eraseDups.Pairwise fun b c => (l ++ [a]).idxOf b < (l ++ [a]).idxOf c :=
      ih.imp_of_mem fun hb hc hlt => by rwa [hkeep hb, hkeep hc]
    by_cases ha : a ∈ l
    · rwa [eraseDups_concat_of_mem ha]
    · rw [eraseDups_concat_of_not_mem ha]
      refine List.pairwise_append.2 ⟨ih', by simp, fun b hb c hc => ?_⟩
      rw [List.mem_singleton.1 hc, hkeep hb, List.idxOf_append, if_neg ha]
      have hlt := List.idxOf_lt_length_of_mem (List.mem_eraseDups.1 hb)
      omega

end SqlTables
