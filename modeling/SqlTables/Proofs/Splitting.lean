import Mathlib.Data.String.Basic
import Mathlib.Data.List.Basic
import SqlTables.Files.Path

/-!
# Texts cut at a character

Cutting a text at a character is cutting the list of its characters (`splitOn_singleton`), and so
the names of a path are the stretches between its slashes, without the empty ones and single dots.
-/

set_option autoImplicit false

namespace SqlTables

open String

/-- The state of the loop that cuts: `m` is the stretch that is being read, after `l`. -/
theorem splitOnAux_eq (c : Char) (l m r : List Char) (acc : List String) :
    splitOnAux (ofList (l ++ m ++ r)) (singleton c) ⟨utf8Len l⟩ ⟨utf8Len l + utf8Len m⟩ 0 acc =
      acc.reverse ++ (List.splitOnPPrepend (· == c) r m.reverse).map ofList := by
  have hone : singleton c = ofList ([] ++ [c]) := rfl
  rw [splitOnAux]
  simp only [List.append_assoc, atEnd_iff, rawEndPos_ofList, utf8Len_append, Pos.Raw.mk_le_mk,
    Nat.add_le_add_iff_left, (by omega : utf8Len m + utf8Len r ≤ utf8Len m ↔ utf8Len r = 0),
    utf8Len_eq_zero]
  split
  · subst r
    simpa using extract_of_valid l m []
  · obtain ⟨d, r, rfl⟩ := r.exists_cons_of_ne_nil ‹_›
    have hget : Pos.Raw.get (ofList (l ++ (m ++ d :: r))) ⟨utf8Len l + utf8Len m⟩ = d := by
      simpa using get_of_valid (l ++ m) (d :: r)
    have hnext : Pos.Raw.next (ofList (l ++ (m ++ d :: r))) ⟨utf8Len l + utf8Len m⟩ =
        ⟨utf8Len l + utf8Len m + d.utf8Size⟩ := by
      simpa using next_of_valid (l ++ m) d r
    have hgetc : Pos.Raw.get (singleton c) 0 = c := get_of_valid [] [c]
    have hnextc : Pos.Raw.next (singleton c) 0 = ⟨c.utf8Size⟩ := by
      simpa using next_of_valid [] c []
    simp only [hget, hnext, hgetc, hnextc]
    by_cases hd : d = c
    · subst hd
      have hextract : Pos.Raw.extract (ofList (l ++ (m ++ d :: r))) ⟨utf8Len l⟩
          ⟨utf8Len l + utf8Len m⟩ = ofList m := by
        simpa using extract_of_valid l m (d :: r)
      have hback : (⟨utf8Len l + utf8Len m + d.utf8Size⟩ : Pos.Raw).unoffsetBy ⟨d.utf8Size⟩ =
          ⟨utf8Len l + utf8Len m⟩ := by
        simp [Pos.Raw.unoffsetBy]
      have hend : (singleton d).rawEndPos ≤ ⟨d.utf8Size⟩ := by
        rw [hone, rawEndPos_ofList]
        simp
      rw [beq_self_eq_true, if_pos rfl, if_pos hend, hback, hextract]
      simpa [Nat.add_assoc, List.splitOnPPrepend_cons_eq_if] using
        splitOnAux_eq d (l ++ m ++ [d]) [] r (ofList m :: acc)
    · have hback : (⟨utf8Len l + utf8Len m⟩ : Pos.Raw).unoffsetBy 0 = ⟨utf8Len l + utf8Len m⟩ := by
        simp [Pos.Raw.unoffsetBy]
      rw [if_neg (by simpa using hd), hback, hnext]
      simpa [Nat.add_assoc, List.splitOnPPrepend_cons_eq_if, hd] using
        splitOnAux_eq c l (m ++ [d]) r acc

/-- A text is split at a character as the list of its characters is. -/
theorem splitOn_singleton (s : String) (c : Char) :
    s.splitOn (singleton c) = (s.toList.splitOn c).map ofList := by
  have hne : singleton c ≠ "" := by simp
  simpa [splitOn, hne, List.splitOn_eq_splitOnP] using splitOnAux_eq c [] [] s.toList []

/-- The names of a path are the stretches between slashes. -/
theorem Files.Path.parse_eq (s : String) :
    Path.parse s = ⟨Path.rootOf s.toList,
      ((s.toList.splitOn '/').map ofList).filter fun n => n ≠ "" ∧ n ≠ "."⟩ := by
  have hslash : "/" = singleton '/' := rfl
  rw [Path.parse, hslash, splitOn_singleton]

end SqlTables
