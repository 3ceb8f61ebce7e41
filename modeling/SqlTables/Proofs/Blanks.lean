import Mathlib.Data.List.Chain
import SqlTables.Text.Blank

/-!
# Blanks in collapsed text

Collapsing keeps the words of a text and puts single spaces between them.  Words are cut at blanks
(`words_append_blank`), so they do not show which blanks there are, nor how many.

`IsCollapsed` describes the texts that collapsing produces without mentioning it:
`collapse_eq_self_iff` says that they are the fixed points.
-/

set_option autoImplicit false

namespace SqlTables.Text

/-! ## Runs of characters -/

section

variable {α : Type} {p : α → Bool} {run rest : List α}

theorem takeWhile_run_append (hrun : ∀ a ∈ run, p a = true)
    (hrest : ∀ a ∈ rest.head?, p a = false) :
    (run ++ rest).takeWhile p = run := by
  rw [List.takeWhile_append_of_pos hrun]
  cases rest with
  | nil => simp
  | cons a rest => simp [hrest a (by simp)]

theorem dropWhile_run_append (hrun : ∀ a ∈ run, p a = true)
    (hrest : ∀ a ∈ rest.head?, p a = false) :
    (run ++ rest).dropWhile p = rest := by
  rw [List.dropWhile_append_of_pos hrun]
  cases rest with
  | nil => rfl
  | cons a rest => rw [List.dropWhile_cons, if_neg (by simp [hrest a (by simp)])]

theorem head?_dropWhile_false (p : α → Bool) (s : List α) :
    ∀ a ∈ (s.dropWhile p).head?, p a = false := by
  intro a ha
  have := List.head?_dropWhile_not p s
  rw [Option.mem_def.1 ha] at this
  simpa using this

theorem takeWhile_append_stop (hrest : ∀ a ∈ rest.head?, p a = false) (s : List α) :
    (s ++ rest).takeWhile p = s.takeWhile p := by
  induction s with
  | nil =>
    cases rest with
    | nil => rfl
    | cons a rest => simp [hrest a (by simp)]
  | cons a s ih => by_cases ha : p a = true <;> simp [ha, ih]

theorem dropWhile_append_stop (hrest : ∀ a ∈ rest.head?, p a = false) (s : List α) :
    (s ++ rest).dropWhile p = s.dropWhile p ++ rest := by
  induction s with
  | nil =>
    cases rest with
    | nil => rfl
    | cons a rest => simp [hrest a (by simp)]
  | cons a s ih => by_cases ha : p a = true <;> simp [ha, ih]

end

/-! ## Words -/

/-- A text without blanks. -/
def IsSolid (w : List Char) : Prop := ∀ c ∈ w, isBlank c = false

/-- A text of blanks only. -/
def IsGap (g : List Char) : Prop := ∀ c ∈ g, isBlank c = true

theorem isSolid_cons {c : Char} {w : List Char} :
    IsSolid (c :: w) ↔ isBlank c = false ∧ IsSolid w := by
  simp [IsSolid]

theorem words_ne_nil_of_solid {c : Char} (h : isBlank c = false) (s : List Char) :
    words (c :: s) ≠ [] := by
  induction s generalizing c with
  | nil => simp [words, h]
  | cons d s ih =>
    by_cases hd : isBlank d = true
    · simp [words, h, hd]
    · have := ih (by simpa using hd)
      simpa [words, h, hd] using this

/-- Words split at a blank. -/
theorem words_append_blank {b : Char} (hb : isBlank b = true) (s t : List Char) :
    words (s ++ b :: t) = words s ++ words t := by
  fun_induction words s with
  | case1 => exact words_cons_of_blank hb t
  | case2 c hc => simp [words, hc, words_cons_of_blank hb t]
  | case3 c hc => simp [words, hc, hb, words_cons_of_blank hb t]
  | case4 c d rest hc ih => simpa [words, hc] using ih
  | case5 c d rest hc hd ih => simpa [words, hc, hd] using ih
  | case6 c d rest hc hd ih =>
    -- the first word goes on, so there is a first word to prepend `c` to
    obtain ⟨w, ws, hw⟩ := List.exists_cons_of_ne_nil
      (words_ne_nil_of_solid (by simpa using hd) rest)
    rw [hw] at ih ⊢
    simp only [List.cons_append] at ih ⊢
    simp [words, hc, hd, ih]

/-- A gap between two texts does not show in the words, whatever its blanks. -/
theorem words_append_gap {g : List Char} (hne : g ≠ []) (hg : IsGap g) (s t : List Char) :
    words (s ++ g ++ t) = words s ++ words t := by
  obtain ⟨b, g, rfl⟩ := List.exists_cons_of_ne_nil hne
  rw [List.append_assoc, List.cons_append, words_append_blank (hg b (by simp)),
    words_append_of_blank fun c hc => hg c (List.mem_cons_of_mem b hc)]

/-- Words are not empty and hold no blanks. -/
theorem solid_of_mem_words {s w : List Char} (h : w ∈ words s) : w ≠ [] ∧ IsSolid w := by
  fun_induction words s generalizing w with
  | case1 => simp at h
  | case2 c hc => simp at h
  | case3 c hc =>
    rw [List.mem_singleton.1 h]
    exact ⟨by simp, by simpa [IsSolid] using hc⟩
  | case4 c d rest hc ih => exact ih h
  | case5 c d rest hc hd ih =>
    rcases List.mem_cons.1 h with rfl | h
    · exact ⟨by simp, by simpa [IsSolid] using hc⟩
    · exact ih h
  | case6 c d rest hc hd ih =>
    obtain ⟨v, vs, hv⟩ := List.exists_cons_of_ne_nil
      (words_ne_nil_of_solid (by simpa using hd) rest)
    rw [hv] at ih h
    rw [List.modifyHead_cons] at h
    rcases List.mem_cons.1 h with rfl | h
    · exact ⟨by simp, isSolid_cons.2 ⟨by simpa using hc, (ih (by simp)).2⟩⟩
    · exact ih (List.mem_cons_of_mem v h)

/-! ## Single spaces -/

/-- A text whose only blanks are spaces, no two of them side by side. -/
structure SingleSpaced (s : List Char) : Prop where
  eq_space : ∀ c ∈ s, isBlank c = true → c = ' '
  apart : s.IsChain fun c d => ¬ (isBlank c = true ∧ isBlank d = true)

/-- A text with single spaces only and none of them at its ends. -/
structure IsCollapsed (s : List Char) : Prop extends SingleSpaced s where
  head_solid : ∀ c ∈ s.head?, isBlank c = false
  last_solid : ∀ c ∈ s.getLast?, isBlank c = false

instance (s : List Char) : Decidable (SingleSpaced s) :=
  decidable_of_iff ((s.all fun c => !isBlank c || c == ' ') = true ∧
      s.IsChain fun c d => ¬ (isBlank c = true ∧ isBlank d = true)) <| by
    have hall : (s.all fun c => !isBlank c || c == ' ') = true ↔
        ∀ c ∈ s, isBlank c = true → c = ' ' := by
      simp [← Bool.not_eq_true, Decidable.imp_iff_not_or]
    rw [hall]
    exact ⟨fun h => ⟨h.1, h.2⟩, fun h => ⟨h.eq_space, h.apart⟩⟩

namespace SingleSpaced

theorem of_infix {s t : List Char} (h : SingleSpaced t) (hst : s <:+: t) : SingleSpaced s where
  eq_space c hc := h.eq_space c (hst.subset hc)
  apart := h.apart.infix hst

theorem of_suffix {s t : List Char} (h : SingleSpaced t) (hst : s <:+ t) : SingleSpaced s :=
  h.of_infix hst.isInfix

theorem of_cons {c : Char} {s : List Char} (h : SingleSpaced (c :: s)) : SingleSpaced s :=
  h.of_suffix (List.suffix_cons c s)

theorem of_append_right {s t : List Char} (h : SingleSpaced (s ++ t)) : SingleSpaced t :=
  h.of_suffix (List.suffix_append s t)

theorem of_isSolid {w : List Char} (h : IsSolid w) : SingleSpaced w where
  eq_space c hc hb := absurd hb (by simp [h c hc])
  apart := by
    induction w with
    | nil => simp
    | cons c w ih =>
      obtain ⟨hc, hw⟩ := isSolid_cons.1 h
      exact List.isChain_cons.2 ⟨fun d _ => by simp [hc], ih hw⟩

theorem solid_of_cons_blank {b c : Char} {s : List Char} (h : SingleSpaced (b :: c :: s))
    (hb : isBlank b = true) : isBlank c = false := by
  simpa [hb] using (List.isChain_cons_cons.1 h.apart).1

/-- Two texts with single spaces make one when no two spaces meet. -/
theorem append {s t : List Char} (hs : SingleSpaced s) (ht : SingleSpaced t)
    (h : (∀ c ∈ s.getLast?, isBlank c = false) ∨ ∀ d ∈ t.head?, isBlank d = false) :
    SingleSpaced (s ++ t) where
  eq_space c hc := (List.mem_append.1 hc).elim (hs.eq_space c) (ht.eq_space c)
  apart := by
    refine hs.apart.append ht.apart fun c hc d hd => ?_
    rcases h with h | h
    · simp [h c hc]
    · simp [h d hd]

/-- The gap at the head of a text with single spaces is one space. -/
theorem eq_of_gap {g s : List Char} (h : SingleSpaced (g ++ s)) (hne : g ≠ []) (hg : IsGap g) :
    g = [' '] := by
  obtain ⟨b, g, rfl⟩ := List.exists_cons_of_ne_nil hne
  have hb : b = ' ' := h.eq_space b (by simp) (hg b (by simp))
  cases g with
  | nil => rw [hb]
  | cons c g =>
    have hc : isBlank c = false := h.solid_of_cons_blank (hg b (by simp))
    exact absurd (hg c (by simp)) (by simp [hc])

end SingleSpaced

theorem isCollapsed_nil : IsCollapsed [] where
  eq_space := by simp
  apart := by simp
  head_solid := by simp
  last_solid := by simp

theorem isCollapsed_of_isSolid {w : List Char} (h : IsSolid w) : IsCollapsed w where
  toSingleSpaced := .of_isSolid h
  head_solid c hc := h c (List.mem_of_head? hc)
  last_solid c hc := h c (List.mem_of_getLast? hc)

theorem IsCollapsed.append {s t : List Char} (hs : IsCollapsed s) (ht : IsCollapsed t) :
    IsCollapsed (s ++ t) where
  toSingleSpaced := hs.toSingleSpaced.append ht.toSingleSpaced (.inl hs.last_solid)
  head_solid c hc := by
    rw [List.head?_append, Option.mem_def, Option.or_eq_some_iff] at hc
    exact hc.elim (hs.head_solid c) fun h => ht.head_solid c h.2
  last_solid c hc := by
    rw [List.getLast?_append, Option.mem_def, Option.or_eq_some_iff] at hc
    exact hc.elim (ht.last_solid c) fun h => hs.last_solid c h.2

/-- Two collapsed texts with a space between them, neither empty. -/
theorem IsCollapsed.append_space {s t : List Char} (hs : IsCollapsed s) (ht : IsCollapsed t)
    (hsne : s ≠ []) (htne : t ≠ []) : IsCollapsed (s ++ ' ' :: t) where
  toSingleSpaced := by
    have hspace : SingleSpaced [' '] := ⟨by simp, by simp⟩
    exact hs.toSingleSpaced.append (hspace.append ht.toSingleSpaced (.inr ht.head_solid))
      (.inl hs.last_solid)
  head_solid c hc := by
    obtain ⟨a, s, rfl⟩ := List.exists_cons_of_ne_nil hsne
    exact hs.head_solid c (by simpa using hc)
  last_solid c hc := by
    refine ht.last_solid c ?_
    rw [List.getLast?_append] at hc
    obtain ⟨a, t, rfl⟩ := List.exists_cons_of_ne_nil htne
    simpa using hc

theorem unwords_ne_nil {w : List Char} (hw : w ≠ []) (ws : List (List Char)) :
    unwords (w :: ws) ≠ [] := by
  cases ws <;> simp [unwords, hw]

theorem mem_unwords {c : Char} {w : List Char} {ws : List (List Char)} (hw : w ∈ ws) (hc : c ∈ w) :
    c ∈ unwords ws := by
  fun_induction unwords ws with
  | case1 => simp at hw
  | case2 v => exact List.mem_singleton.1 hw ▸ hc
  | case3 v u ws ih =>
    rcases List.mem_cons.1 hw with rfl | hw
    · exact List.mem_append_left _ hc
    · exact List.mem_append_right _ (List.mem_cons_of_mem ' ' (ih hw))

/-- Words joined by single spaces make a collapsed text. -/
theorem isCollapsed_unwords {ws : List (List Char)} (h : ∀ w ∈ ws, w ≠ [] ∧ IsSolid w) :
    IsCollapsed (unwords ws) := by
  fun_induction unwords ws with
  | case1 => exact isCollapsed_nil
  | case2 w => exact isCollapsed_of_isSolid (h w (by simp)).2
  | case3 w v ws ih =>
    have hw := h w (by simp)
    have hv := h v (by simp)
    exact (isCollapsed_of_isSolid hw.2).append_space
      (ih fun u hu => h u (List.mem_cons_of_mem w hu)) hw.1 (unwords_ne_nil hv.1 ws)

theorem isCollapsed_collapse (s : List Char) : IsCollapsed (collapse s) :=
  isCollapsed_unwords fun _ h => solid_of_mem_words h

/-- Joining words undoes cutting into words, up to a blank at the head. -/
theorem unwords_words_of_singleSpaced {s : List Char} (h : SingleSpaced s)
    (hlast : ∀ c ∈ s.getLast?, isBlank c = false) :
    unwords (words s) = s.dropWhile isBlank := by
  fun_induction words s with
  | case1 => rfl
  | case2 c hc => simp [unwords, hc]
  | case3 c hc => simp [unwords, hc]
  | case4 c d rest hc ih =>
    simpa [hc] using ih h.of_cons (by simpa using hlast)
  | case5 c d rest hc hd ih =>
    obtain rfl : d = ' ' := h.eq_space d (by simp) hd
    have htail : SingleSpaced (' ' :: rest) := h.of_cons
    have ih := ih htail (by simpa using hlast)
    cases rest with
    | nil => simp [hd] at hlast
    | cons e rest =>
      -- a text with single spaces goes on with a word after the space
      have he : isBlank e = false := htail.solid_of_cons_blank hd
      rw [words_cons_of_blank hd] at ih ⊢
      obtain ⟨w, ws, hw⟩ := List.exists_cons_of_ne_nil (words_ne_nil_of_solid he rest)
      rw [hw] at ih ⊢
      simp [unwords, ih, hc, hd, he]
  | case6 c d rest hc hd ih =>
    have ih := ih h.of_cons (by simpa using hlast)
    obtain ⟨w, ws, hw⟩ := List.exists_cons_of_ne_nil
      (words_ne_nil_of_solid (by simpa using hd) rest)
    rw [hw] at ih ⊢
    have hjoin : unwords ((c :: w) :: ws) = c :: unwords (w :: ws) := by
      cases ws <;> simp [unwords]
    simp only [List.modifyHead_cons, hjoin, ih]
    simp [hc, hd]

theorem collapse_of_isCollapsed {s : List Char} (h : IsCollapsed s) : collapse s = s := by
  rw [collapse, unwords_words_of_singleSpaced h.toSingleSpaced h.last_solid]
  cases s with
  | nil => rfl
  | cons c s =>
    have hc := h.head_solid c (by simp)
    rw [List.dropWhile_cons, if_neg (by simp [hc])]

/-- The texts that collapsing leaves as they are. -/
theorem collapse_eq_self_iff {s : List Char} : collapse s = s ↔ IsCollapsed s :=
  ⟨fun h => h ▸ isCollapsed_collapse s, collapse_of_isCollapsed⟩

/-- Between two texts any gap collapses as any other. -/
theorem collapse_append_gap_congr {g g' : List Char} (hne : g ≠ []) (hg : IsGap g)
    (hne' : g' ≠ []) (hg' : IsGap g') (s t : List Char) :
    collapse (s ++ g ++ t) = collapse (s ++ g' ++ t) := by
  rw [collapse, collapse, words_append_gap hne hg, words_append_gap hne' hg']

end SqlTables.Text
