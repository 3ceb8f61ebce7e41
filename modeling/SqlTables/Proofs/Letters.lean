import SqlTables.Proofs.Blanks
import SqlTables.Sql.Identifier
import SqlTables.Text.Case

/-!
# Blanks among letters

A search that ignores case takes a caseless character for itself only, and blanks are caseless; and
no character of a name is a blank.  Both facts are checked against the tables of case mappings and
of letters, at the code points of the blanks.
-/

set_option autoImplicit false

namespace SqlTables.Text

/-- The code points of the blanks. -/
def blankCodes : List Nat := [
  0x09, 0x0A, 0x0B, 0x0C, 0x0D, 0x1C, 0x1D, 0x1E, 0x1F, 0x20, 0x85, 0xA0, 0x1680, 0x2000, 0x2001,
  0x2002, 0x2003, 0x2004, 0x2005, 0x2006, 0x2007, 0x2008, 0x2009, 0x200A, 0x2028, 0x2029, 0x202F,
  0x205F, 0x3000]

theorem isBlank_iff {c : Char} : isBlank c = true ↔ c.toNat ∈ blankCodes := by
  simp only [isBlank, blankCodes, Bool.or_eq_true, Bool.and_eq_true, decide_eq_true_eq, beq_iff_eq,
    List.mem_cons, List.not_mem_nil, or_false]
  omega

/-- A code that a run maps to lies in the run, moved by its shift. -/
theorem exists_run_of_mapRuns_ne {runs : List CaseRun} {n : Nat} (h : mapRuns runs n ≠ n) :
    ∃ run ∈ runs, run.first ≤ n ∧ n ≤ run.last ∧
      mapRuns runs n = (Int.ofNat n + run.shift).toNat := by
  unfold mapRuns at h ⊢
  split at h
  · rename_i run hrun
    have hcovers := List.find?_some hrun
    simp only [CaseRun.covers, Bool.and_eq_true, decide_eq_true_eq] at hcovers
    exact ⟨run, List.mem_of_find?_eq_some hrun, hcovers.1.1, hcovers.1.2, by simp⟩
  · exact absurd rfl h

/-- Whether a run maps some code to `m`, as far as its bounds tell. -/
def CaseRun.reaches (run : CaseRun) (m : Nat) : Bool :=
  decide ((run.first : Int) + run.shift ≤ m) && decide ((m : Int) ≤ run.last + run.shift)

/-- Whether a code stands apart from all case mappings: it is no lower-case letter of ASCII, stands
for itself alone, and nothing else is mapped to it. -/
def isCaseless (m : Nat) : Bool :=
  0 < m && (m < 0x61 || 0x7A < m) && lowerCode m == m && companions m == [] &&
    lowerRuns.all (!·.reaches m) && caseCompanions.all (!·.2.contains m)

theorem isCaseless_blank : ∀ m ∈ blankCodes, isCaseless m = true := by
  decide +kernel

/-- Only the code itself has a caseless code for its lower-case form. -/
theorem eq_of_lowerCode_caseless {n m : Nat} (hm : isCaseless m = true) (h : lowerCode n = m) :
    n = m := by
  simp only [isCaseless, Bool.and_eq_true, Bool.or_eq_true, decide_eq_true_eq, List.all_eq_true,
    Bool.not_eq_true'] at hm
  obtain ⟨⟨⟨⟨⟨hpos, hlow⟩, _⟩, _⟩, hreach⟩, _⟩ := hm
  unfold lowerCode at h
  split at h
  · split at h
    · rename_i hn
      simp only [Bool.and_eq_true, decide_eq_true_eq] at hn
      omega
    · exact h
  · by_contra hne
    -- a run would have to end at the code, and none does
    obtain ⟨run, hrun, hfirst, hlast, heq⟩ := exists_run_of_mapRuns_ne (h ▸ Ne.symm hne)
    have hreach := hreach run hrun
    rw [h] at heq
    simp only [CaseRun.reaches, Bool.and_eq_false_iff, decide_eq_false_iff_not] at hreach
    simp only [Int.ofNat_eq_natCast] at heq
    omega

theorem not_mem_companions {n m : Nat} (hm : isCaseless m = true) : m ∉ companions n := by
  simp only [isCaseless, Bool.and_eq_true, List.all_eq_true, Bool.not_eq_true'] at hm
  unfold companions
  cases h : caseCompanions.lookup n with
  | none => simp
  | some codes =>
    obtain ⟨p, hp, rfl⟩ : ∃ p ∈ caseCompanions, p.2 = codes := by
      obtain ⟨l₁, l₂, heq, _⟩ := List.lookup_eq_some_iff.1 h
      exact ⟨(n, codes), by simp [heq], rfl⟩
    have := hm.2 p hp
    simpa using this

/-- Case makes no difference between a caseless character and another one. -/
theorem sameLetter_caseless_iff {a b : Char} (hb : isCaseless b.toNat = true) :
    sameLetter a b = true ↔ a = b := by
  have hself : lowerCode b.toNat = b.toNat := by
    simp only [isCaseless, Bool.and_eq_true, beq_iff_eq] at hb
    exact hb.1.1.1.2
  simp only [sameLetter, hself, Bool.or_eq_true, beq_iff_eq, List.contains_iff_mem]
  constructor
  · rintro (h | h)
    · exact Char.toNat_inj.1 (eq_of_lowerCode_caseless hb h)
    · exact absurd h (not_mem_companions hb)
  · rintro rfl
    exact .inl hself

theorem caseless_sameLetter_iff {a b : Char} (ha : isCaseless a.toNat = true) :
    sameLetter a b = true ↔ b = a := by
  have hself : lowerCode a.toNat = a.toNat ∧ companions a.toNat = [] := by
    simp only [isCaseless, Bool.and_eq_true, beq_iff_eq] at ha
    exact ⟨ha.1.1.1.2, ha.1.1.2⟩
  simp only [sameLetter, hself, List.contains_nil, Bool.or_false, beq_iff_eq]
  constructor
  · intro h
    exact Char.toNat_inj.1 (eq_of_lowerCode_caseless ha h.symm)
  · rintro rfl
    exact hself.1.symm

/-- Case makes no difference between a blank and another character. -/
theorem eq_of_sameLetter_blank {a b : Char} (h : sameLetter a b = true)
    (hb : isBlank b = true) : a = b :=
  (sameLetter_caseless_iff (isCaseless_blank _ (isBlank_iff.1 hb))).1 h

theorem eq_of_blank_sameLetter {a b : Char} (h : sameLetter a b = true)
    (ha : isBlank a = true) : b = a :=
  (caseless_sameLetter_iff (isCaseless_blank _ (isBlank_iff.1 ha))).1 h

theorem sameLetter_self (c : Char) : sameLetter c c = true := by
  simp [sameLetter]

end SqlTables.Text

namespace SqlTables.Sql

open SqlTables.Text

theorem not_nameChar_blank : ∀ m ∈ blankCodes, isNameChar (Char.ofNat m) = false := by
  decide +kernel

/-- No blank is a character of a name. -/
theorem isNameChar_of_isBlank {c : Char} (h : isBlank c = true) : isNameChar c = false := by
  have := not_nameChar_blank _ (isBlank_iff.1 h)
  rwa [Char.ofNat_toNat] at this

/-- No character of a name is a blank. -/
theorem isBlank_of_isNameChar {c : Char} (h : isNameChar c = true) : isBlank c = false := by
  by_contra hb
  have := isNameChar_of_isBlank (by simpa using hb)
  rw [h] at this
  exact absurd this (by simp)

end SqlTables.Sql
