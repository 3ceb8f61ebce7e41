import Mathlib.Data.List.Forall2
import SqlTables.Proofs.Identifiers
import SqlTables.Sql.Capture

/-!
# Keywords in text with single spaces

Where all blanks are single spaces, a keyword in normal form matches letter by letter, so its match
is as long as the keyword and holds as many spaces.  Of two keywords that match at one place, the
longer therefore has at least as many words: trying keywords by words first and characters second
is trying the longest match first.
-/

set_option autoImplicit false

namespace SqlTables.Sql

open SqlTables.Text

/-- Two texts that agree letter by letter, case ignored. -/
def SameText (w m : List Char) : Prop :=
  List.Forall₂ (fun a b => sameLetter a b = true) w m

/-- A keyword in normal form: words with single spaces between them, and not empty. -/
def IsPhrase (k : String) : Prop := IsCollapsed k.toList ∧ k ≠ ""

/-! ## Texts that agree letter by letter -/

namespace SameText

theorem length_eq {w m : List Char} (h : SameText w m) : m.length = w.length :=
  (List.Forall₂.length_eq h).symm

theorem append_iff {v w m : List Char} :
    SameText (v ++ w) m ↔ ∃ m₁ m₂, m = m₁ ++ m₂ ∧ SameText v m₁ ∧ SameText w m₂ := by
  constructor
  · intro h
    induction v generalizing m with
    | nil => exact ⟨[], m, rfl, .nil, h⟩
    | cons c v ih =>
      cases h with
      | cons hc h =>
        obtain ⟨m₁, m₂, rfl, hv, hw⟩ := ih h
        exact ⟨_ :: m₁, m₂, rfl, .cons hc hv, hw⟩
  · rintro ⟨m₁, m₂, rfl, hv, hw⟩
    exact List.rel_append hv hw

theorem space_cons_iff {w m : List Char} :
    SameText (' ' :: w) m ↔ ∃ m', m = ' ' :: m' ∧ SameText w m' := by
  constructor
  · intro h
    cases h with
    | cons hc h => exact ⟨_, by rw [eq_of_blank_sameLetter hc isBlank_space], h⟩
  · rintro ⟨m', rfl, h⟩
    exact .cons (sameLetter_self ' ') h

/-- A text that agrees with one that begins with a letter does not begin with a blank. -/
theorem head_solid {w m : List Char} (h : SameText w m) (hne : w ≠ [])
    (hw : ∀ c ∈ w.head?, isBlank c = false) (rest : List Char) :
    ∀ c ∈ (m ++ rest).head?, isBlank c = false := by
  cases h with
  | nil => exact absurd rfl hne
  | @cons a b w m hab _ =>
    intro c hc
    obtain rfl : b = c := by simpa using hc
    by_contra hb
    have ha := hw a (by simp)
    rw [eq_of_sameLetter_blank hab (by simpa using hb)] at ha
    exact hb ha

/-- Agreeing texts hold equally many spaces. -/
theorem count_space {w m : List Char} (h : SameText w m) : m.count ' ' = w.count ' ' := by
  induction h with
  | nil => rfl
  | @cons a b w m hc _ ih =>
    have hab : b = ' ' ↔ a = ' ' := by
      constructor
      · rintro rfl
        exact eq_of_sameLetter_blank hc isBlank_space
      · rintro rfl
        exact eq_of_blank_sameLetter hc isBlank_space
    simp [List.count_cons, hab, ih]

end SameText

/-! ## Words and gaps at the head of a text -/

namespace Capture

theorem takeWord_eq_some_iff {w s m rest : List Char} :
    takeWord w s = some (m, rest) ↔ SameText w m ∧ m ++ rest = s := by
  induction w generalizing s m with
  | nil =>
    simp only [takeWord, Option.some.injEq, Prod.mk.injEq]
    constructor
    · rintro ⟨rfl, rfl⟩
      exact ⟨.nil, rfl⟩
    · rintro ⟨h, rfl⟩
      cases h
      exact ⟨rfl, rfl⟩
  | cons a w ih =>
    cases s with
    | nil =>
      simp only [takeWord, reduceCtorEq, List.append_eq_nil_iff, false_iff]
      rintro ⟨h, rfl, rfl⟩
      cases h
    | cons c s =>
      simp only [takeWord]
      split
      · rename_i hc
        simp only [Option.map_eq_some_iff, Prod.exists, Prod.mk.injEq]
        constructor
        · rintro ⟨m', rest', h, rfl, rfl⟩
          obtain ⟨hw, rfl⟩ := ih.1 h
          exact ⟨.cons hc hw, rfl⟩
        · rintro ⟨h, heq⟩
          cases h with
          | cons _ h =>
            obtain ⟨rfl, rfl⟩ := List.cons.inj heq
            exact ⟨_, _, ih.2 ⟨h, rfl⟩, rfl, rfl⟩
      · rename_i hc
        simp only [reduceCtorEq, false_iff]
        rintro ⟨h, heq⟩
        cases h with
        | cons hc' h => exact hc ((List.cons.inj heq).1 ▸ hc')

theorem takeGap_eq_some_iff {s gap rest : List Char} :
    takeGap s = some (gap, rest) ↔
      gap ≠ [] ∧ IsGap gap ∧ gap ++ rest = s ∧ ∀ c ∈ rest.head?, isBlank c = false := by
  constructor
  · intro h
    unfold takeGap at h
    split at h
    · simp at h
    · rename_i hne
      cases h
      refine ⟨hne, ?_, List.takeWhile_append_dropWhile, head?_dropWhile_false isBlank s⟩
      intro c hc
      have := List.all_takeWhile (p := isBlank) (l := s)
      rw [List.all_eq_true] at this
      exact this c hc
  · rintro ⟨hne, hgap, rfl, hrest⟩
    rw [takeGap, takeWhile_run_append hgap hrest, dropWhile_run_append hgap hrest]
    obtain ⟨b, gap, rfl⟩ := List.exists_cons_of_ne_nil hne
    rfl

/-- The words of a phrase match exactly where the phrase itself does, letter by letter. -/
theorem takePhrase_eq_some_iff {ws : List (List Char)} {s m rest : List Char}
    (hws : ∀ w ∈ ws, w ≠ [] ∧ IsSolid w) (hs : SingleSpaced s) :
    takePhrase ws s = some (m, rest) ↔ SameText (unwords ws) m ∧ m ++ rest = s := by
  fun_induction takePhrase ws s generalizing m rest with
  | case1 s => exact takeWord_eq_some_iff (w := [])
  | case2 w s => exact takeWord_eq_some_iff
  | case3 w v ws s ih =>
    have hw := hws w (by simp)
    have hv := hws v (by simp)
    have hvs : ∀ u ∈ v :: ws, u ≠ [] ∧ IsSolid u := fun u hu => hws u (List.mem_cons_of_mem w hu)
    simp only [bind, Option.bind_eq_some_iff, Prod.exists, pure, Option.some.injEq, Prod.mk.injEq]
    constructor
    · rintro ⟨m₁, s₁, h₁, gap, s₂, h₂, m₂, s₃, h₃, rfl, rfl⟩
      obtain ⟨hm₁, rfl⟩ := takeWord_eq_some_iff.1 h₁
      obtain ⟨hne, hgap, rfl, _⟩ := takeGap_eq_some_iff.1 h₂
      have hs₁ : SingleSpaced (gap ++ s₂) := hs.of_suffix ⟨m₁, by simp⟩
      obtain ⟨hm₂, rfl⟩ := (ih s₂ hvs hs₁.of_append_right).1 h₃
      obtain rfl := hs₁.eq_of_gap hne hgap
      refine ⟨?_, by simp⟩
      rw [unwords, List.append_assoc]
      exact SameText.append_iff.2
        ⟨m₁, _, rfl, hm₁, SameText.space_cons_iff.2 ⟨m₂, rfl, hm₂⟩⟩
    · rintro ⟨hm, rfl⟩
      obtain ⟨m₁, m', rfl, hm₁, hm'⟩ := SameText.append_iff.1 hm
      obtain ⟨m₂, rfl, hm₂⟩ := SameText.space_cons_iff.1 hm'
      have hsolid := isCollapsed_unwords hvs
      have hhead := hm₂.head_solid (unwords_ne_nil hv.1 ws) hsolid.head_solid rest
      have hs₂ : SingleSpaced (m₂ ++ rest) := hs.of_suffix ⟨m₁ ++ [' '], by simp⟩
      have hgap : takeGap (' ' :: (m₂ ++ rest)) = some ([' '], m₂ ++ rest) :=
        takeGap_eq_some_iff.2 ⟨by simp, by simp [IsGap], rfl, hhead⟩
      exact ⟨m₁, ' ' :: (m₂ ++ rest), takeWord_eq_some_iff.2 ⟨hm₁, by simp⟩, [' '], m₂ ++ rest,
        hgap, m₂, rest, (ih _ hvs hs₂).2 ⟨hm₂, rfl⟩, by simp, rfl⟩

end Capture

/-! ## Phrases in normal form -/

theorem IsPhrase.toList_ne_nil {k : String} (h : IsPhrase k) : k.toList ≠ [] := by
  simpa using h.2

theorem IsPhrase.unwords_wordsOf {k : String} (h : IsPhrase k) :
    unwords (Keyword.wordsOf k) = k.toList :=
  collapse_of_isCollapsed h.1

theorem mem_normalize_iff {phrases : List String} {k : String} :
    k ∈ Keyword.normalize phrases ↔ ∃ q ∈ phrases, collapsed q = k ∧ k ≠ "" := by
  simp only [Keyword.normalize, List.mem_eraseDups, List.mem_filter, List.mem_map,
    decide_eq_true_eq]
  constructor
  · rintro ⟨⟨q, hq, heq⟩, hne⟩
    exact ⟨q, hq, heq, hne⟩
  · rintro ⟨q, hq, heq, hne⟩
    exact ⟨⟨q, hq, heq⟩, hne⟩

/-- Keywords in normal form are phrases. -/
theorem isPhrase_of_mem_normalize {phrases : List String} {k : String}
    (h : k ∈ Keyword.normalize phrases) : IsPhrase k := by
  obtain ⟨p, _, rfl, hne⟩ := mem_normalize_iff.1 h
  exact ⟨by simpa [collapsed] using isCollapsed_collapse p.toList, hne⟩

/-- A phrase at the head of a text, letter by letter. -/
theorem Capture.takePhrase_wordsOf_iff {k : String} {s m rest : List Char} (hk : IsPhrase k)
    (hs : SingleSpaced s) :
    takePhrase (Keyword.wordsOf k) s = some (m, rest) ↔ SameText k.toList m ∧ m ++ rest = s := by
  have hws : ∀ w ∈ Keyword.wordsOf k, w ≠ [] ∧ IsSolid w := fun _ hw => solid_of_mem_words hw
  rw [takePhrase_eq_some_iff hws hs, hk.unwords_wordsOf]

/-! ## Longest first -/

theorem count_space_of_isSolid {w : List Char} (h : IsSolid w) : w.count ' ' = 0 :=
  List.count_eq_zero.2 fun hmem => absurd (h ' ' hmem) (by simp)

/-- One space stands between each two of the words. -/
theorem length_eq_count_unwords {w : List Char} {ws : List (List Char)}
    (h : ∀ v ∈ w :: ws, IsSolid v) : (w :: ws).length = (unwords (w :: ws)).count ' ' + 1 := by
  induction ws generalizing w with
  | nil => simp [unwords, count_space_of_isSolid (h w (by simp))]
  | cons v ws ih =>
    have ih := ih fun u hu => h u (List.mem_cons_of_mem w hu)
    have hw := count_space_of_isSolid (h w (by simp))
    simp only [List.length_cons] at ih ⊢
    simp only [unwords, List.count_append, hw, List.count_cons, beq_self_eq_true, if_true]
    omega

theorem IsPhrase.length_wordsOf {k : String} (h : IsPhrase k) :
    (Keyword.wordsOf k).length = k.toList.count ' ' + 1 := by
  have hjoin := h.unwords_wordsOf
  have hsolid : ∀ v ∈ Keyword.wordsOf k, IsSolid v := fun _ hv => (solid_of_mem_words hv).2
  cases hws : Keyword.wordsOf k with
  | nil =>
    rw [hws] at hjoin
    exact absurd hjoin.symm h.toList_ne_nil
  | cons w ws =>
    rw [length_eq_count_unwords (hws ▸ hsolid), ← hws, hjoin]

/-- Of two keywords whose matches begin at one place, the one that is tried first has the match
that is at least as long. -/
theorem length_le_of_precedes {k j : String} (hk : IsPhrase k) (hj : IsPhrase j)
    (h : Keyword.precedes k j = true) {s m n : List Char} (hm : SameText k.toList m)
    (hn : SameText j.toList n) (hms : m <+: s) (hns : n <+: s) : n.length ≤ m.length := by
  by_contra hlt
  -- the match of `k` is part of that of `j`, so `j` has no fewer words
  have hpre : m <+: n := List.prefix_of_prefix_length_le hms hns (by omega)
  have hwords : (Keyword.wordsOf k).length ≤ (Keyword.wordsOf j).length := by
    rw [hk.length_wordsOf, hj.length_wordsOf, ← hm.count_space, ← hn.count_space]
    have := hpre.sublist.count_le ' '
    omega
  have hchars : k.length < j.length := by
    rw [← String.length_toList, ← String.length_toList, ← hm.length_eq, ← hn.length_eq]
    omega
  simp only [Keyword.precedes, Bool.or_eq_true, Bool.and_eq_true, decide_eq_true_eq, beq_iff_eq]
    at h
  omega

theorem pairwise_byLength (phrases : List String) :
    (Keyword.byLength phrases).Pairwise fun a b => Keyword.precedes a b = true := by
  refine List.pairwise_mergeSort ?_ ?_ phrases
  · intro a b c hab hbc
    simp only [Keyword.precedes, Bool.or_eq_true, Bool.and_eq_true, decide_eq_true_eq,
      beq_iff_eq] at hab hbc ⊢
    omega
  · intro a b
    simp only [Keyword.precedes, Bool.or_eq_true, Bool.and_eq_true, decide_eq_true_eq,
      beq_iff_eq]
    omega

end SqlTables.Sql
