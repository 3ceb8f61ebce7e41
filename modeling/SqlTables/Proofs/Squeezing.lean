import Mathlib.Data.List.SplitBy
import Mathlib.Data.List.TakeWhile
import SqlTables.Proofs.Blanks

/-!
# Runs of blanks

Squeezing puts one space in place of every run of blanks and leaves all other characters as they
are.  Everything about it follows from two equations, one for a character that is not blank and one
for a whole run.  Collapsing a text is squeezing it and dropping the spaces at its two ends
(`collapse_eq_trim_squeeze`).
-/

set_option autoImplicit false

namespace SqlTables.Text

/-- The longest stretches of blanks and of other characters, in order. -/
def runs (s : List Char) : List (List Char) := s.splitBy fun a b => isBlank a == isBlank b

/-- The text with one space in place of every run of blanks. -/
def squeeze (s : List Char) : List Char :=
  (runs s).flatMap fun run => if run.all isBlank then [' '] else run

/-! ## Two equations -/

theorem squeeze_append {s t : List Char}
    (h : ∀ c ∈ s.getLast?, ∀ d ∈ t.head?, isBlank c ≠ isBlank d) :
    squeeze (s ++ t) = squeeze s ++ squeeze t := by
  have hruns : runs (s ++ t) = runs s ++ runs t :=
    List.splitBy_append fun c hc d hd => by simpa using h c hc d hd
  rw [squeeze, hruns, List.flatMap_append]
  rfl

theorem runs_of_isGap {g : List Char} (hne : g ≠ []) (hg : IsGap g) : runs g = [g] := by
  refine List.splitBy_of_isChain hne (List.pairwise_of_forall_mem_list ?_).isChain
  intro c hc d hd
  simp [hg c hc, hg d hd]

theorem runs_of_isSolid {w : List Char} (hne : w ≠ []) (hw : IsSolid w) : runs w = [w] := by
  refine List.splitBy_of_isChain hne (List.pairwise_of_forall_mem_list ?_).isChain
  intro c hc d hd
  simp [hw c hc, hw d hd]

theorem squeeze_of_isSolid {w : List Char} (hw : IsSolid w) : squeeze w = w := by
  cases w with
  | nil => rfl
  | cons c w =>
    have hc : isBlank c = false := hw c (by simp)
    rw [squeeze, runs_of_isSolid (by simp) hw]
    simp [hc]

/-- A run of blanks gives one space. -/
theorem squeeze_gap_append {g s : List Char} (hne : g ≠ []) (hg : IsGap g)
    (hs : ∀ c ∈ s.head?, isBlank c = false) : squeeze (g ++ s) = ' ' :: squeeze s := by
  have hgap : squeeze g = [' '] := by
    have hall : g.all isBlank = true := List.all_eq_true.2 hg
    rw [squeeze, runs_of_isGap hne hg, List.flatMap_singleton, if_pos hall]
  rw [squeeze_append, hgap]
  · rfl
  · intro c hc d hd
    simp [hg c (List.mem_of_getLast? hc), hs d hd]

/-- A character that is not blank stays. -/
theorem squeeze_cons_solid {c : Char} (hc : isBlank c = false) (s : List Char) :
    squeeze (c :: s) = c :: squeeze s := by
  let w := s.takeWhile fun d => !isBlank d
  let rest := s.dropWhile fun d => !isBlank d
  have hs : w ++ rest = s := List.takeWhile_append_dropWhile
  have hw : IsSolid w := fun d hd => by simpa using List.mem_takeWhile_imp hd
  have hrest : ∀ d ∈ rest.head?, isBlank d = true := fun d hd => by
    simpa using head?_dropWhile_false (fun d => !isBlank d) s d hd
  have hsplit {v : List Char} (hv : IsSolid v) : squeeze (v ++ rest) = v ++ squeeze rest := by
    rw [squeeze_append, squeeze_of_isSolid hv]
    intro d hd e he
    simp [hv d (List.mem_of_getLast? hd), hrest e he]
  rw [← hs, ← List.cons_append, hsplit (isSolid_cons.2 ⟨hc, hw⟩), hsplit hw, List.cons_append]

/-- Induction over a text by its solid characters and its runs of blanks. -/
@[elab_as_elim]
theorem induction_on_runs {motive : List Char → Prop} (s : List Char) (nil : motive [])
    (solid : ∀ (c : Char) (s : List Char), isBlank c = false → motive s → motive (c :: s))
    (gap : ∀ g s : List Char, g ≠ [] → IsGap g → (∀ c ∈ s.head?, isBlank c = false) → motive s →
      motive (g ++ s)) : motive s := by
  induction hn : s.length using Nat.strong_induction_on generalizing s with
  | h n ih =>
    cases s with
    | nil => exact nil
    | cons c s =>
      by_cases hc : isBlank c = true
      · have hrun : IsGap (c :: s.takeWhile isBlank) := by
          exact List.forall_mem_cons.2 ⟨hc, fun d hd => List.mem_takeWhile_imp hd⟩
        have hlength : (s.dropWhile isBlank).length < n := by
          have := (List.dropWhile_suffix isBlank (l := s)).length_le
          simp only [List.length_cons] at hn
          omega
        have hrest := ih _ hlength (s.dropWhile isBlank) rfl
        have := gap _ _ (by simp) hrun (head?_dropWhile_false isBlank s) hrest
        rwa [List.cons_append, List.takeWhile_append_dropWhile] at this
      · have hlength : s.length < n := by
          simp only [List.length_cons] at hn
          omega
        exact solid c s (by simpa using hc) (ih _ hlength s rfl)

/-- A character that is not blank cuts a text in two that are squeezed apart. -/
theorem squeeze_append_cons_solid {c : Char} (hc : isBlank c = false) (s t : List Char) :
    squeeze (s ++ c :: t) = squeeze s ++ c :: squeeze t := by
  induction s using induction_on_runs with
  | nil => exact squeeze_cons_solid hc t
  | solid d s hd ih =>
    rw [List.cons_append, squeeze_cons_solid hd, squeeze_cons_solid hd, ih, List.cons_append]
  | gap g s hne hg hs ih =>
    have hhead : ∀ d ∈ (s ++ c :: t).head?, isBlank d = false := by
      cases s with
      | nil => simpa using hc
      | cons d s => simpa using hs
    rw [List.append_assoc, squeeze_gap_append hne hg hhead, squeeze_gap_append hne hg hs, ih,
      List.cons_append]

/-! ## What squeezing keeps -/

/-- Squeezing puts nothing into a text but spaces. -/
theorem mem_of_mem_squeeze {c : Char} {s : List Char} (h : c ∈ squeeze s) : c = ' ' ∨ c ∈ s := by
  obtain ⟨run, hrun, hc⟩ := List.mem_flatMap.1 h
  have hs : (runs s).flatten = s := List.flatten_splitBy _ s
  split at hc
  · exact .inl (by simpa using hc)
  · rw [← hs]
    exact .inr (List.mem_flatten.2 ⟨run, hrun, hc⟩)

theorem words_cons_congr {c : Char} {s t : List Char} (hc : isBlank c = false)
    (hhead : s.head?.map isBlank = t.head?.map isBlank) (h : words s = words t) :
    words (c :: s) = words (c :: t) := by
  cases s with
  | nil => cases t with
    | nil => rfl
    | cons e t => simp at hhead
  | cons d s => cases t with
    | nil => simp at hhead
    | cons e t =>
      have hde : isBlank d = isBlank e := by simpa using hhead
      simp only [words, hc, hde, h]

/-- Squeezing keeps whether a text begins with a blank. -/
theorem head?_squeeze (s : List Char) :
    (squeeze s).head?.map isBlank = s.head?.map isBlank := by
  cases s with
  | nil => rfl
  | cons c s =>
    cases hc : isBlank c with
    | false => simp [squeeze_cons_solid hc, hc]
    | true =>
      have hrun : IsGap (c :: s.takeWhile isBlank) :=
        List.forall_mem_cons.2 ⟨hc, fun d hd => List.mem_takeWhile_imp hd⟩
      rw [← List.takeWhile_append_dropWhile (p := isBlank) (l := s), ← List.cons_append,
        squeeze_gap_append (by simp) hrun (head?_dropWhile_false isBlank s)]
      simp [hc]

theorem squeeze_ne_nil {s : List Char} (h : s ≠ []) : squeeze s ≠ [] := by
  intro hnil
  have hhead := head?_squeeze s
  rw [hnil, List.head?_nil, Option.map_none, eq_comm, Option.map_eq_none_iff,
    List.head?_eq_none_iff] at hhead
  exact h hhead

/-- Squeezing keeps the words. -/
theorem words_squeeze (s : List Char) : words (squeeze s) = words s := by
  induction s using induction_on_runs with
  | nil => rfl
  | solid c s hc ih =>
    rw [squeeze_cons_solid hc]
    exact words_cons_congr hc (head?_squeeze s) ih
  | gap g s hne hg hs ih =>
    rw [squeeze_gap_append hne hg hs, words_cons_of_blank isBlank_space, ih,
      words_append_of_blank hg]

theorem singleSpaced_squeeze (s : List Char) : SingleSpaced (squeeze s) := by
  induction s using induction_on_runs with
  | nil => exact isCollapsed_nil.toSingleSpaced
  | solid c s hc ih =>
    rw [squeeze_cons_solid hc]
    exact (SingleSpaced.of_isSolid (w := [c]) (by simpa [IsSolid] using hc)).append ih
      (.inl (by simpa using hc))
  | gap g s hne hg hs ih =>
    have hspace : SingleSpaced [' '] := ⟨by simp, by simp⟩
    have hhead : ∀ c ∈ (squeeze s).head?, isBlank c = false := by
      intro c hc
      have := head?_squeeze s
      rw [Option.mem_def.1 hc] at this
      obtain ⟨d, hd, heq⟩ := Option.map_eq_some_iff.1 this.symm
      rw [← heq]
      exact hs d hd
    rw [squeeze_gap_append hne hg hs]
    exact hspace.append ih (.inr hhead)

/-! ## Dropping the blanks at the ends -/

/-- A text is its trimmed form between two gaps. -/
theorem exists_trim_eq (s : List Char) : ∃ g g', IsGap g ∧ IsGap g' ∧ s = g ++ trim s ++ g' := by
  have htake {t : List Char} : IsGap (t.takeWhile isBlank) := fun _ hc => List.mem_takeWhile_imp hc
  refine ⟨s.takeWhile isBlank, ((s.dropWhile isBlank).reverse.takeWhile isBlank).reverse, htake,
    fun c hc => htake c (List.mem_reverse.1 hc), ?_⟩
  rw [trim, trimRight, List.append_assoc, ← List.reverse_append, List.takeWhile_append_dropWhile,
    List.reverse_reverse, List.takeWhile_append_dropWhile]

theorem words_trim (s : List Char) : words (trim s) = words s := by
  obtain ⟨g, g', hg, hg', hs⟩ := exists_trim_eq s
  conv_rhs => rw [hs, List.append_assoc, words_append_of_blank hg]
  cases g' with
  | nil => rw [List.append_nil]
  | cons b g' =>
    have h := words_append_gap (by simp) hg' (trim s) []
    rw [List.append_nil, words_nil, List.append_nil] at h
    exact h.symm

/-- A text with single spaces only is collapsed once it is trimmed. -/
theorem isCollapsed_trim {s : List Char} (h : SingleSpaced s) : IsCollapsed (trim s) := by
  obtain ⟨g, g', _, _, hs⟩ := exists_trim_eq s
  have hprefix : trim s <+: s.dropWhile isBlank :=
    List.reverse_suffix.1 (by simpa [trim, trimRight] using List.dropWhile_suffix isBlank)
  refine ⟨h.of_infix ⟨g, g', hs.symm⟩, fun c hc => ?_, fun c hc => ?_⟩
  · obtain ⟨t, ht⟩ := List.head?_eq_some_iff.1 hc
    refine head?_dropWhile_false isBlank s c ?_
    obtain ⟨u, hu⟩ := hprefix
    rw [← hu, ht]
    rfl
  · rw [trim, trimRight, List.getLast?_reverse] at hc
    exact head?_dropWhile_false isBlank _ c hc

/-- A text that is in order once it is squeezed is collapsed by squeezing it. -/
theorem collapse_eq_squeeze {s : List Char} (h : IsCollapsed (squeeze s)) :
    collapse s = squeeze s := by
  rw [collapse, ← words_squeeze]
  exact collapse_of_isCollapsed h

/-- Collapsing is squeezing and trimming. -/
theorem collapse_eq_trim_squeeze (s : List Char) : collapse s = trim (squeeze s) := by
  have hwords : words (trim (squeeze s)) = words s := by rw [words_trim, words_squeeze]
  rw [collapse, ← hwords]
  exact collapse_of_isCollapsed (isCollapsed_trim (singleSpaced_squeeze s))

end SqlTables.Text
