import SqlTables.Text.Blank
import SqlTables.Text.Case
import SqlTables.Text.Letter
import SqlTables.Text.Printable

/-!
# The repertoire of texts

Escapes may ask for a character by its name, and they may put half of a surrogate pair into a text
by itself, which is no character.  Neither is known to the tables here, so it is a parameter of all
that reads texts: a `Repertoire` says which characters have names, and lends each half of a pair a
character to stand for it.  The halves are told apart from each other and, as long as the characters
that stand for them are not used otherwise in what is read, from all else; and since such a
character is inert, a text with it is taken apart as one with the half itself would be.
-/

set_option autoImplicit false

namespace SqlTables.Text

/-- Whether a code point is half of a surrogate pair. -/
def IsSurrogate (n : Nat) : Prop := 0xD800 ≤ n ∧ n < 0xE000

instance : DecidablePred IsSurrogate := fun n =>
  inferInstanceAs (Decidable (0xD800 ≤ n ∧ n < 0xE000))

/-- A character outside ASCII that has no printed form, belongs to no word, separates none and has
no case. -/
structure IsInert (c : Char) : Prop where
  beyond_ascii : 0x80 ≤ c.toNat
  unprintable : isPrintable c = false
  no_word : isWordChar c = false
  no_blank : isBlank c = false
  lower : lowerChar c = [c]
  upper : upperChar c = [c]

/-- The names of characters, and the characters that stand for halves of surrogate pairs. -/
class Repertoire where
  /-- The character of a name. -/
  ofName? : List UInt8 → Option Char
  /-- The character that stands for half of a pair. -/
  standIn : Nat → Char
  /-- The half that a character stands for. -/
  half? : Char → Option Nat
  half?_eq_some_iff : ∀ c n, half? c = some n ↔ IsSurrogate n ∧ standIn n = c
  inert_standIn : ∀ n, IsSurrogate n → IsInert (standIn n)
  half?_ofName : ∀ name c, ofName? name = some c → half? c = none

namespace Repertoire

/-! ## The usual repertoire -/

theorem inRanges_of_mem {ranges : List (Nat × Nat)} {r : Nat × Nat} {n : Nat} (h : r ∈ ranges)
    (hlow : r.1 ≤ n) (hhigh : n ≤ r.2) : inRanges ranges n = true :=
  inRanges_iff.2 ⟨r, h, hlow, hhigh⟩

theorem inRanges_of_beyond {ranges : List (Nat × Nat)} {n : Nat} (h : ∀ r ∈ ranges, r.2 < n) :
    inRanges ranges n = false := by
  rw [Bool.eq_false_iff, Ne, inRanges_iff]
  rintro ⟨r, hr, -, hhigh⟩
  have := h r hr
  omega

theorem mapRuns_of_beyond {runs : List CaseRun} {n : Nat} (h : ∀ run ∈ runs, run.last < n) :
    mapRuns runs n = n := by
  have hnone : runs.find? (·.covers n) = none := by
    refine List.find?_eq_none.2 fun run hrun hcovers => ?_
    have hlast := h run hrun
    simp only [CaseRun.covers, Bool.and_eq_true, decide_eq_true_eq] at hcovers
    omega
  rw [mapRuns, hnone]

/-- No character with a table entry comes as late as plane 13, but for the ranges of those that are
not printed. -/
theorem lastEntries : (∀ r ∈ letterRanges, r.2 < 0xD0000) ∧
    (∀ run ∈ lowerRuns, run.last < 0xD0000) ∧ (∀ run ∈ upperRuns, run.last < 0xD0000) ∧
    ∀ entry ∈ upperExpansions, entry.1 < 0xD0000 := by
  decide +kernel

/-- The characters of plane 13, none of which is assigned, are inert. -/
theorem isInert_of_unassigned {c : Char} (hlow : 0xD0000 ≤ c.toNat) (hhigh : c.toNat < 0xE0000) :
    IsInert c where
  beyond_ascii := by omega
  unprintable := by
    have hmem : (0x3134b, 0xe00ff) ∈ unprintableRanges := by decide +kernel
    have hascii : ¬ c.toNat < 0x80 := by omega
    rw [isPrintable, if_neg hascii,
      inRanges_of_mem hmem (by simp only; omega) (by simp only; omega)]
    rfl
  no_word := by
    have hascii : ¬ c.toNat < 0x80 := by omega
    have hline : (c == '_') = false := by
      rw [beq_eq_false_iff_ne]
      rintro rfl
      revert hlow
      decide
    rw [isWordChar, isAlphanumeric, if_neg hascii,
      inRanges_of_beyond fun r hr => Nat.lt_of_lt_of_le (lastEntries.1 r hr) hlow, hline]
    rfl
  no_blank := by
    simp only [isBlank, Bool.or_eq_false_iff, Bool.and_eq_false_iff, decide_eq_false_iff_not,
      beq_eq_false_iff_ne]
    omega
  lower := by
    have hascii : ¬ c.toNat < 0x80 := by omega
    have hdotted : (c.toNat == 0x130) = false := by
      rw [beq_eq_false_iff_ne]
      omega
    rw [lowerChar, hdotted, lowerCode, if_neg hascii,
      mapRuns_of_beyond fun run hrun => Nat.lt_of_lt_of_le (lastEntries.2.1 run hrun) hlow,
      Char.ofNat_toNat]
    rfl
  upper := by
    have hascii : ¬ c.toNat < 0x80 := by omega
    have hnone : upperExpansions.lookup c.toNat = none := by
      refine List.lookup_eq_none_iff.2 fun entry hentry => ?_
      have := lastEntries.2.2.2 entry hentry
      simp only [ne_eq, bne_iff_ne]
      omega
    simp only [upperChar, hascii, if_false, hnone]
    rw [mapRuns_of_beyond fun run hrun => Nat.lt_of_lt_of_le (lastEntries.2.2.1 run hrun) hlow,
      Char.ofNat_toNat]

theorem toNat_shifted {n : Nat} (h : IsSurrogate n) : (Char.ofNat (0xD0000 + n)).toNat =
    0xD0000 + n := by
  have hvalid : (0xD0000 + n).isValidChar := by
    have := h.2
    exact .inr ⟨by omega, by omega⟩
  rw [Char.ofNat, dif_pos hvalid]
  rfl

/-- The half that an unassigned character stands for. -/
def unassignedHalf? (c : Char) : Option Nat :=
  if IsSurrogate (c.toNat - 0xD0000) then some (c.toNat - 0xD0000) else none

theorem unassignedHalf?_eq_some_iff (c : Char) (n : Nat) :
    unassignedHalf? c = some n ↔ IsSurrogate n ∧ Char.ofNat (0xD0000 + n) = c := by
  unfold unassignedHalf?
  constructor
  · intro h
    split at h
    · rename_i hhalf
      rw [Option.some.injEq] at h
      rw [h] at hhalf
      have hback : 0xD0000 + n = c.toNat := by
        have := hhalf.1
        omega
      exact ⟨hhalf, by rw [hback, Char.ofNat_toNat]⟩
    · cases h
  · rintro ⟨hn, rfl⟩
    have hback : 0xD0000 + n - 0xD0000 = n := Nat.add_sub_cancel_left ..
    simp only [toNat_shifted hn, hback, hn, if_true]

/-- The repertoire in which no character has a name and the halves of pairs are stood for by
unassigned characters. -/
instance usual : Repertoire where
  ofName? _ := none
  standIn n := Char.ofNat (0xD0000 + n)
  half? := unassignedHalf?
  half?_eq_some_iff := unassignedHalf?_eq_some_iff
  inert_standIn n h := by
    have hn := toNat_shifted h
    have := h.2
    exact isInert_of_unassigned (by omega) (by omega)
  half?_ofName _ _ h := nomatch h

/-! ## Code points -/

variable [Repertoire] {c : Char} {n : Nat}

/-- The character of a code point, or the one that stands for it. -/
def charOf (n : Nat) : Char := if IsSurrogate n then standIn n else Char.ofNat n

/-- Whether a character stands for half of a pair. -/
def isHalf (c : Char) : Bool := (half? c).isSome

theorem half?_of_ascii (h : c.toNat < 0x80) : half? c = none := by
  cases hhalf : half? c with
  | none => rfl
  | some n =>
    obtain ⟨hn, rfl⟩ := (half?_eq_some_iff c n).1 hhalf
    have := (inert_standIn n hn).beyond_ascii
    omega

end Repertoire

end SqlTables.Text
