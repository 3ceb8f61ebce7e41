import Mathlib.Data.List.Basic
import SqlTables.Proofs.Phrases

/-!
# Upper-case forms of letters that agree

Letters that agree when case is ignored need not have one upper-case form: the dotted capital I
agrees with `i`, and is its own.  Which codes a case mapping takes to a given one is read off its
table (`lowerSources`, `upperSources`), so a question about a few letters is a check of a few codes
instead of all of them.  For the letters of the keywords that read tables it comes out like this
(`upperWithin_of_sameLetter`): but for the dotted capital I, a letter that agrees with another one
has its upper-case form, or a form that is strange to all these keywords.
-/

set_option autoImplicit false

namespace SqlTables.Text

/-! ## Where case mappings come from -/

/-- The codes that a run could map to `m`, as far as its bounds tell. -/
def runSources (runs : List CaseRun) (m : Nat) : List Nat :=
  (runs.filter (·.reaches m)).map fun run => ((m : Int) - run.shift).toNat

/-- A code is mapped to itself, or comes from a run. -/
theorem mem_runSources {runs : List CaseRun} {n m : Nat} (hm : m ≠ 0) (h : mapRuns runs n = m) :
    n = m ∨ n ∈ runSources runs m := by
  by_cases hself : n = m
  · exact .inl hself
  · obtain ⟨run, hrun, hfirst, hlast, heq⟩ :=
      exists_run_of_mapRuns_ne (h ▸ Ne.symm hself : mapRuns runs n ≠ n)
    rw [h, Int.ofNat_eq_natCast] at heq
    refine .inr (List.mem_map.2 ⟨run, List.mem_filter.2 ⟨hrun, ?_⟩, by omega⟩)
    simp only [CaseRun.reaches, Bool.and_eq_true, decide_eq_true_eq]
    omega

/-- The codes of which the lower-case form may be `m`. -/
def lowerSources (m : Nat) : List Nat :=
  m :: (if 0x61 ≤ m ∧ m ≤ 0x7A then [m - 0x20] else []) ++ runSources lowerRuns m

theorem mem_lowerSources {n m : Nat} (hm : m ≠ 0) (h : lowerCode n = m) : n ∈ lowerSources m := by
  unfold lowerCode at h
  simp only [lowerSources, List.cons_append, List.mem_cons, List.mem_append]
  split at h
  · split at h
    · rename_i hupper
      simp only [Bool.and_eq_true, decide_eq_true_eq] at hupper
      rw [if_pos (by omega), List.mem_singleton]
      exact .inr (.inl (by omega))
    · exact .inl h
  · exact (mem_runSources hm h).imp_right .inr

/-- The codes of which the upper-case form may hold `m`. -/
def upperSources (m : Nat) : List Nat :=
  m :: (if 0x41 ≤ m ∧ m ≤ 0x5A then [m + 0x20] else []) ++
    (upperExpansions.filter (·.2.contains m)).map (·.1) ++ runSources upperRuns m

theorem toNat_ofNat_eq {n m : Nat} (hm : m ≠ 0) (h : (Char.ofNat n).toNat = m) : n = m := by
  by_cases hvalid : n.isValidChar
  · rw [Char.ofNat, dif_pos hvalid] at h
    exact h
  · rw [Char.ofNat, dif_neg hvalid] at h
    exact absurd h.symm hm

/-- In ASCII a letter is 32 places behind its upper-case form. -/
theorem toUpper_ascii : ∀ n < 0x80, n = (Char.ofNat n).toUpper.toNat ∨
    0x41 ≤ (Char.ofNat n).toUpper.toNat ∧ (Char.ofNat n).toUpper.toNat ≤ 0x5A ∧
      n = (Char.ofNat n).toUpper.toNat + 0x20 := by
  decide +kernel

theorem mem_upperSources {c d : Char} {m : Nat} (hd : d ∈ upperChar c) (hm : d.toNat = m)
    (hzero : m ≠ 0) : c.toNat ∈ upperSources m := by
  simp only [upperSources, List.cons_append, List.mem_cons, List.mem_append]
  unfold upperChar at hd
  simp only at hd
  split at hd
  · rename_i hascii
    have hupper := toUpper_ascii c.toNat hascii
    rw [Char.ofNat_toNat] at hupper
    rw [List.mem_singleton.1 hd] at hm
    rw [hm] at hupper
    refine hupper.imp_right fun ⟨hlow, hhigh, hcode⟩ => .inl (.inl ?_)
    rw [if_pos ⟨hlow, hhigh⟩, List.mem_singleton]
    exact hcode
  · split at hd
    · rename_i codes hcodes
      obtain ⟨code, hcode, rfl⟩ := List.mem_map.1 hd
      obtain rfl := toNat_ofNat_eq hzero hm
      obtain ⟨before, after, hsplit, -⟩ := List.lookup_eq_some_iff.1 hcodes
      refine .inr (.inl (.inr (List.mem_map.2 ⟨(c.toNat, codes), List.mem_filter.2 ⟨?_, ?_⟩, rfl⟩)))
      · simp [hsplit]
      · simpa using hcode
    · rw [List.mem_singleton.1 hd] at hm
      exact (mem_runSources hzero (toNat_ofNat_eq hzero hm)).imp_right fun h => .inr h

/-! ## Blanks in upper-case forms -/

theorem upperExpansions_ne_nil : ∀ p ∈ upperExpansions, p.2 ≠ [] := by
  decide +kernel

theorem upperChar_ne_nil (c : Char) : upperChar c ≠ [] := by
  unfold upperChar
  simp only
  split
  · simp
  · split
    · rename_i codes hcodes
      obtain ⟨before, after, hsplit, -⟩ := List.lookup_eq_some_iff.1 hcodes
      simpa using upperExpansions_ne_nil (c.toNat, codes) (by simp [hsplit])
    · simp

theorem upperSources_blank : ∀ m ∈ blankCodes, m ≠ 0 ∧ upperSources m = [m] := by
  decide +kernel

/-- The upper-case form of a letter holds no blank. -/
theorem isSolid_upperChar {c : Char} (h : isBlank c = false) : IsSolid (upperChar c) := by
  intro d hd
  by_contra hblank
  have hcode := isBlank_iff.1 (by simpa using hblank)
  obtain ⟨hzero, hsources⟩ := upperSources_blank _ hcode
  have hc := mem_upperSources hd rfl hzero
  rw [hsources, List.mem_singleton] at hc
  rw [isBlank_iff.2 (hc ▸ hcode)] at h
  cases h

theorem upper_append (s t : List Char) : upper (s ++ t) = upper s ++ upper t :=
  List.flatMap_append

theorem upper_cons (c : Char) (s : List Char) : upper (c :: s) = upperChar c ++ upper s := rfl

theorem upper_ne_nil {s : List Char} (h : s ≠ []) : upper s ≠ [] := by
  obtain ⟨c, s, rfl⟩ := List.exists_cons_of_ne_nil h
  simp [upper_cons, upperChar_ne_nil]

theorem isSolid_upper {s : List Char} (h : IsSolid s) : IsSolid (upper s) := by
  intro d hd
  obtain ⟨c, hc, hd⟩ := List.mem_flatMap.1 hd
  exact isSolid_upperChar (h c hc) d hd

theorem upper_unwords (ws : List (List Char)) : upper (unwords ws) = unwords (ws.map upper) := by
  fun_induction unwords ws with
  | case1 => rfl
  | case2 w => rfl
  | case3 w v ws ih =>
    rw [upper_append, upper_cons, ih]
    rfl

/-- Upper case keeps a text collapsed. -/
theorem isCollapsed_upper {s : List Char} (h : IsCollapsed s) : IsCollapsed (upper s) := by
  rw [← collapse_of_isCollapsed h, collapse, upper_unwords]
  refine isCollapsed_unwords fun w hw => ?_
  obtain ⟨v, hv, rfl⟩ := List.mem_map.1 hw
  obtain ⟨hne, hsolid⟩ := solid_of_mem_words hv
  exact ⟨upper_ne_nil hne, isSolid_upper hsolid⟩

/-! ## Letters that agree -/

theorem companions_symm : ∀ p ∈ caseCompanions, ∀ m ∈ p.2, p.1 ∈ companions m := by
  decide +kernel

theorem mem_companions_comm {n m : Nat} (h : m ∈ companions n) : n ∈ companions m := by
  unfold companions at h
  cases hlookup : caseCompanions.lookup n with
  | none => simp [hlookup] at h
  | some codes =>
    obtain ⟨before, after, hsplit, -⟩ := List.lookup_eq_some_iff.1 hlookup
    rw [hlookup, Option.getD_some] at h
    exact companions_symm (n, codes) (by simp [hsplit]) m h

theorem sameLetter_iff {a b : Char} : sameLetter a b = true ↔
    lowerCode b.toNat ∈ lowerCode a.toNat :: companions (lowerCode a.toNat) := by
  simp only [sameLetter, Bool.or_eq_true, beq_iff_eq, List.contains_iff_mem, List.mem_cons]
  exact or_congr_left eq_comm

theorem sameLetter_symm {a b : Char} (h : sameLetter a b = true) : sameLetter b a = true := by
  rw [sameLetter_iff, List.mem_cons] at h ⊢
  exact h.imp Eq.symm mem_companions_comm

/-- The letters of the keywords that read tables. -/
def sourceLetters : List Char := "FROMJINUSG".toList

/-- A stretch of an upper-case text that is part of no keyword that reads tables: it has none of
their letters, or is a double S. -/
def IsStrange (s : List Char) : Prop :=
  s ≠ [] ∧ ((∀ c ∈ s, c ∉ sourceLetters) ∨ s = ['S', 'S'])

-- Over the letters of the text: characters are finitely many, and all of them is another instance.
instance (s : List Char) : Decidable (IsStrange s) :=
  have : Decidable (∀ c ∈ s, c ∉ sourceLetters) := List.decidableBAll (· ∉ sourceLetters) s
  inferInstanceAs (Decidable (_ ∧ (_ ∨ _)))

/-- The dotted capital I. -/
def dottedI : Char := Char.ofNat 0x130

/-- The upper-case form of the second character is that of the first one, or is strange. -/
def UpperWithin (a b : Char) : Prop := upperChar b = upperChar a ∨ IsStrange (upperChar b)

instance (a b : Char) : Decidable (UpperWithin a b) := inferInstanceAs (Decidable (_ ∨ _))

/-- The check of all codes that may agree with one of which the upper-case form has a letter of a
keyword. -/
theorem upperWithin_sources : ∀ code ∈ sourceLetters.map Char.toNat, code ≠ 0 ∧
    ∀ n ∈ upperSources code, ∀ m ∈ lowerCode n :: companions (lowerCode n), m ≠ 0 ∧
      ∀ n' ∈ lowerSources m, (n' = 0x130 → n = 0x130) →
        UpperWithin (Char.ofNat n') (Char.ofNat n) := by
  decide +kernel

theorem toNat_eq_dottedI_iff {c : Char} : c.toNat = 0x130 ↔ c = dottedI := by
  rw [← Char.toNat_inj]
  rfl

/-- Of letters that agree the second one has the upper-case form of the first one or a strange one,
unless it stands for a dotted capital I and is none. -/
theorem upperWithin_of_sameLetter {a b : Char} (h : sameLetter a b = true)
    (hdot : a = dottedI → b = dottedI) : UpperWithin a b := by
  by_cases hb : ∃ d ∈ sourceLetters, d ∈ upperChar b
  · obtain ⟨d, hd, hb⟩ := hb
    obtain ⟨hzero, hcheck⟩ := upperWithin_sources d.toNat (List.mem_map_of_mem hd)
    obtain ⟨hzero', hcheck⟩ := hcheck b.toNat (mem_upperSources hb rfl hzero) _
      (sameLetter_iff.1 (sameLetter_symm h))
    have hwithin := hcheck a.toNat (mem_lowerSources hzero' rfl)
      (by rwa [toNat_eq_dottedI_iff, toNat_eq_dottedI_iff])
    rwa [Char.ofNat_toNat, Char.ofNat_toNat] at hwithin
  · exact .inr ⟨upperChar_ne_nil b, .inl fun c hc hs => hb ⟨c, hs, hc⟩⟩

end SqlTables.Text
