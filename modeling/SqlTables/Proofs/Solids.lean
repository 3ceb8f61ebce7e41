import SqlTables.Proofs.Squeezing

/-!
# What collapsing leaves of a text besides its blanks

Collapsing keeps the characters that are not blank, in their order (`solids_collapse`).  What stands
side by side without a blank in the collapsed text stands so in the text, and the other way round,
behind the same characters that are not blank.
-/

set_option autoImplicit false

namespace SqlTables.Text

/-- The characters of a text that are not blank. -/
def solids (s : List Char) : List Char := s.filter fun c => !isBlank c

theorem solids_append (s t : List Char) : solids (s ++ t) = solids s ++ solids t :=
  List.filter_append s t

theorem solids_of_isGap {g : List Char} (h : IsGap g) : solids g = [] :=
  List.filter_eq_nil_iff.2 fun c hc => by simp [h c hc]

theorem solids_cons_solid {c : Char} (hc : isBlank c = false) (s : List Char) :
    solids (c :: s) = c :: solids s :=
  List.filter_cons_of_pos (by simp [hc])

/-- A character that is not blank occurs as often among the characters that are not blank. -/
theorem count_solids {c : Char} (hc : isBlank c = false) (s : List Char) :
    (solids s).count c = s.count c :=
  List.count_filter (by simp [hc])

theorem solids_squeeze (s : List Char) : solids (squeeze s) = solids s := by
  induction s using induction_on_runs with
  | nil => rfl
  | solid c s hc ih => rw [squeeze_cons_solid hc, solids_cons_solid hc, solids_cons_solid hc, ih]
  | gap g s hne hg hs ih =>
    have hspace : IsGap [' '] := by simp [IsGap]
    rw [squeeze_gap_append hne hg hs, ← List.singleton_append, solids_append, solids_append,
      solids_of_isGap hspace, solids_of_isGap hg, ih]

theorem solids_collapse (s : List Char) : solids (collapse s) = solids s := by
  obtain ⟨g, g', hg, hg', htrim⟩ := exists_trim_eq (squeeze s)
  have h := congrArg solids htrim
  rw [solids_squeeze, solids_append, solids_append, solids_of_isGap hg, solids_of_isGap hg',
    List.append_nil, List.nil_append, ← collapse_eq_trim_squeeze] at h
  exact h.symm

/-! ## Where the parts of a collapsed text come from -/

/-- Two parts of a squeezed text are two parts of the text, squeezed. -/
theorem exists_of_squeeze_eq_append {s a b : List Char} (h : squeeze s = a ++ b) :
    ∃ a' b', s = a' ++ b' ∧ squeeze a' = a ∧ squeeze b' = b := by
  induction s using induction_on_runs generalizing a with
  | nil =>
    obtain ⟨rfl, rfl⟩ := List.append_eq_nil_iff.1 h.symm
    exact ⟨[], [], rfl, rfl, rfl⟩
  | solid c s hc ih =>
    cases a with
    | nil => exact ⟨[], c :: s, rfl, rfl, h⟩
    | cons d a =>
      rw [squeeze_cons_solid hc, List.cons_append] at h
      obtain ⟨rfl, htail⟩ := List.cons.inj h
      obtain ⟨a', b', rfl, rfl, rfl⟩ := ih htail
      exact ⟨c :: a', b', rfl, squeeze_cons_solid hc a', rfl⟩
  | gap g s hne hg hs ih =>
    cases a with
    | nil => exact ⟨[], g ++ s, rfl, rfl, h⟩
    | cons d a =>
      rw [squeeze_gap_append hne hg hs, List.cons_append] at h
      obtain ⟨rfl, htail⟩ := List.cons.inj h
      obtain ⟨a', b', rfl, rfl, rfl⟩ := ih htail
      have hhead : ∀ c ∈ a'.head?, isBlank c = false := fun c hc =>
        hs c (by rw [List.head?_append, Option.mem_def.1 hc]; rfl)
      exact ⟨g ++ a', b', (List.append_assoc g a' b').symm, squeeze_gap_append hne hg hhead, rfl⟩

/-- Where squeezing leaves no blank, there was none. -/
theorem squeeze_eq_of_isSolid {s : List Char} (h : IsSolid (squeeze s)) : squeeze s = s := by
  induction s using induction_on_runs with
  | nil => rfl
  | solid c s hc ih =>
    rw [squeeze_cons_solid hc] at h ⊢
    rw [ih (isSolid_cons.1 h).2]
  | gap g s hne hg hs _ =>
    rw [squeeze_gap_append hne hg hs] at h
    exact absurd (isSolid_cons.1 h).1 (by simp)

/-- What stands in a collapsed text without a blank stands in the text itself, behind the same
characters that are not blank. -/
theorem exists_of_collapse_eq_append {s a w b : List Char} (h : collapse s = a ++ w ++ b)
    (hw : IsSolid w) : ∃ a' b', s = a' ++ w ++ b' ∧ solids a' = solids a := by
  obtain ⟨g, g', hg, _, htrim⟩ := exists_trim_eq (squeeze s)
  have hsqueeze : squeeze s = g ++ a ++ (w ++ (b ++ g')) := by
    rw [htrim, ← collapse_eq_trim_squeeze, h]
    simp only [List.append_assoc]
  obtain ⟨a', t, rfl, ha', ht⟩ := exists_of_squeeze_eq_append hsqueeze
  obtain ⟨w', b', rfl, hw', _⟩ := exists_of_squeeze_eq_append ht
  have hsame : w' = w := by rw [← hw', squeeze_eq_of_isSolid (hw' ▸ hw)]
  refine ⟨a', b', by rw [hsame, List.append_assoc], ?_⟩
  rw [← solids_squeeze, ha', solids_append, solids_of_isGap hg, List.nil_append]

/-! ## Where the parts of a text go -/

theorem squeeze_solid_append {w : List Char} (hw : IsSolid w) (s : List Char) :
    squeeze (w ++ s) = w ++ squeeze s := by
  induction w with
  | nil => rfl
  | cons c w ih =>
    obtain ⟨hc, hw⟩ := isSolid_cons.1 hw
    rw [List.cons_append, squeeze_cons_solid hc, ih hw, List.cons_append]

/-- Dropping the blanks at the ends of a text drops nothing between two characters that are not
blank. -/
theorem trim_append_solid {w : List Char} (hw : IsSolid w) (hne : w ≠ []) (s t : List Char) :
    trim (s ++ w ++ t) = s.dropWhile isBlank ++ w ++ trimRight t := by
  have hhead {u v : List Char} (hu : IsSolid u) (hne : u ≠ []) :
      ∀ c ∈ (u ++ v).head?, isBlank c = false := by
    obtain ⟨d, u, rfl⟩ := List.exists_cons_of_ne_nil hne
    intro c hc
    exact hu c (by simp_all)
  have hreverse : IsSolid w.reverse := fun c hc => hw c (List.mem_reverse.1 hc)
  rw [trim, List.append_assoc, dropWhile_append_stop (hhead hw hne), trimRight, trimRight,
    List.reverse_append, List.reverse_append, List.append_assoc,
    dropWhile_append_stop (hhead hreverse (by simpa using hne))]
  simp only [List.reverse_append, List.reverse_reverse, List.append_assoc]

/-- What stands in a text without a blank stands in its collapsed form, behind the same characters
that are not blank. -/
theorem exists_collapse_eq_append {w : List Char} (hw : IsSolid w) (hne : w ≠ [])
    (a b : List Char) :
    ∃ a' b', collapse (a ++ w ++ b) = a' ++ w ++ b' ∧ solids a' = solids a := by
  obtain ⟨c, w, rfl⟩ := List.exists_cons_of_ne_nil hne
  have hsqueeze : squeeze (a ++ c :: w ++ b) = squeeze a ++ c :: w ++ squeeze b := by
    obtain ⟨hc, hsolid⟩ := isSolid_cons.1 hw
    rw [List.append_assoc, List.cons_append, squeeze_append_cons_solid hc,
      squeeze_solid_append hsolid, List.append_assoc, List.cons_append]
  refine ⟨(squeeze a).dropWhile isBlank, trimRight (squeeze b), ?_, ?_⟩
  · rw [collapse_eq_trim_squeeze, hsqueeze, trim_append_solid hw hne]
  · have hgap : IsGap ((squeeze a).takeWhile isBlank) := fun _ hc => List.mem_takeWhile_imp hc
    rw [← solids_squeeze a, ← List.takeWhile_append_dropWhile (p := isBlank) (l := squeeze a),
      solids_append, solids_of_isGap hgap]
    simp

end SqlTables.Text
