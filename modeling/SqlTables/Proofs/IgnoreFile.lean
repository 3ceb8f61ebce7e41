import SqlTables.Proofs.Detection

/-!
# The ignore file

The file of patterns of names to leave out gives its lines (`Text.IsLines`), trimmed, but for blank
ones and those that begin with a number sign.  It gives none if it is not there or cannot be read,
and only one that is no text is a fault.
-/

set_option autoImplicit false

namespace SqlTables

open Files (Tree Path)

/-! ## Lines -/

namespace Text

/-- The lines of a text: each goes up to a character that ends it, and what is left of the text
after the last such character is a line too. -/
inductive IsLines : List Char → List (List Char) → Prop where
  | nil : IsLines [] []
  | last {line : List Char} : line ≠ [] → (∀ c ∈ line, endsLine c = false) → IsLines line [line]
  | cons {line s : List Char} {c : Char} {lines : List (List Char)} :
      (∀ d ∈ line, endsLine d = false) → endsLine c = true → IsLines s lines →
      IsLines (line ++ c :: s) (line :: lines)

theorem isLines_linesFrom (current : List Char) (h : ∀ c ∈ current, endsLine c = false)
    (s : List Char) : IsLines (current.reverse ++ s) (linesFrom current s) := by
  have hline : ∀ c ∈ current.reverse, endsLine c = false :=
    fun c hc => h c (List.mem_reverse.1 hc)
  fun_induction linesFrom current s with
  | case1 current hempty =>
    rw [List.isEmpty_iff.1 hempty]
    exact .nil
  | case2 current hne =>
    rw [List.append_nil]
    exact .last (by simpa using hne) hline
  | case3 current c rest hends ih => exact .cons hline hends (ih nofun nofun)
  | case4 current c rest hends ih =>
    have hc : ∀ d ∈ c :: current, endsLine d = false :=
      List.forall_mem_cons.2 ⟨Bool.eq_false_iff.2 hends, h⟩
    have hlines := ih hc fun d hd => hc d (List.mem_reverse.1 hd)
    rwa [List.reverse_cons, List.append_assoc, List.singleton_append] at hlines

/-- Newlines that are line feeds stay as they are. -/
theorem unifyNewlines_eq_self {s : List Char} (h : '\r' ∉ s) : unifyNewlines s = s := by
  fun_induction unifyNewlines s with
  | case1 => rfl
  | case2 rest ih => exact absurd (by simp) h
  | case3 rest _ ih => exact absurd (by simp) h
  | case4 c rest _ _ ih => rw [ih fun hmem => h (List.mem_cons_of_mem c hmem)]

end Text

/-! ## Files that are read -/

namespace Files

/-- The bytes of a text are read as it, with line feeds for all newlines. -/
theorem documentText_of_text (s : List Char) :
    documentText (s.flatMap String.utf8EncodeChar) =
      .ok (String.ofList (Text.unifyNewlines s)) := by
  have hdecode := Bytes.Utf8.decode_eq_ok_iff.2 (Bytes.Utf8.encode_eq s).symm
  simp only [documentText, hdecode]

end Files

namespace Config

/-! ## Patterns -/

/-- The bytes of the ignore file are no text. -/
def HasFaultyIgnoreFile (tree : Tree) : Prop :=
  ∃ bytes, tree.read (.parse ignoreFile) = .ok bytes ∧
    ∀ s : List Char, bytes ≠ s.flatMap String.utf8EncodeChar

/-- The patterns that the ignore file gives: its lines, trimmed, but for blank ones and those that
begin with a number sign.  One that is not there or cannot be read gives none. -/
inductive IgnoreFileGives (tree : Tree) : List String → Prop where
  | nothing : (∀ bytes, tree.read (.parse ignoreFile) ≠ .ok bytes) → IgnoreFileGives tree []
  | patterns {s u : List Char} {lines : List (List Char)} :
      tree.read (.parse ignoreFile) = .ok (s.flatMap String.utf8EncodeChar) →
      Text.LineFeeds s u → Text.IsLines u lines →
      IgnoreFileGives tree (((lines.map Text.trim).filter fun line =>
        line ≠ [] ∧ line.head? ≠ some '#').map String.ofList)

variable {tree : Tree}

/-- The patterns read from the ignore file. -/
def patternsRead (tree : Tree) : Except Failure (List String) :=
  match tree.read (.parse ignoreFile) with
  | .ok bytes => (Files.documentText bytes).map ignorePatterns
  | .error _ => .ok []

theorem readIgnoreFile_apply (tree : Tree) (earlier : List Notice) :
    ∃ later, readIgnoreFile tree earlier = (patternsRead tree, later) := by
  unfold readIgnoreFile patternsRead
  cases hread : tree.read (.parse ignoreFile) with
  | ok bytes =>
    rw [if_pos (Files.exists?_of_read hread)]
    simp only
    cases Files.documentText bytes <;> exact ⟨_, rfl⟩
  | error e => split <;> exact ⟨_, rfl⟩

/-- The ignore file gives its patterns unless its bytes are no text. -/
theorem patternsRead_of_not_faulty (h : ¬ HasFaultyIgnoreFile tree) :
    ∃ patterns, IgnoreFileGives tree patterns ∧ patternsRead tree = .ok patterns := by
  unfold patternsRead
  cases hbytes : tree.read (.parse ignoreFile) with
  | ok bytes =>
    obtain ⟨s, rfl⟩ : ∃ s : List Char, bytes = s.flatMap String.utf8EncodeChar := by
      by_contra hnone
      exact h ⟨bytes, hbytes, not_exists.1 hnone⟩
    refine ⟨_, .patterns hbytes (Text.lineFeeds_unifyNewlines s)
      (Text.isLines_linesFrom [] nofun _), ?_⟩
    have hlines : Text.lines (Text.unifyNewlines s) = Text.linesFrom [] (Text.unifyNewlines s) := by
      rw [Text.lines, Text.unifyNewlines_eq_self (Text.not_mem_unifyNewlines s)]
    have hkept : (fun line : List Char => !line.isEmpty && line.head? != some '#') =
        fun line => decide (line ≠ [] ∧ line.head? ≠ some '#') := by
      funext line
      rw [Bool.eq_iff_iff]
      simp
    simp only [Files.documentText_of_text]
    show Except.ok (ignorePatterns (String.ofList (Text.unifyNewlines s))) = _
    rw [ignorePatterns, String.toList_ofList, hlines, hkept]
  | error e =>
    refine ⟨[], .nothing fun bytes hread => ?_, rfl⟩
    cases hbytes.symm.trans hread

theorem patternsRead_of_faulty (h : HasFaultyIgnoreFile tree) :
    ∃ fault, patternsRead tree = .error (.undecodable fault) := by
  obtain ⟨bytes, hbytes, hnone⟩ := h
  simp only [patternsRead, hbytes, Files.documentText]
  cases hdecode : Bytes.Utf8.decoder.decode bytes with
  | ok s =>
    have hs := Bytes.Utf8.decode_eq_ok_iff.1 hdecode
    exact absurd (hs.trans (Bytes.Utf8.encode_eq s)) (hnone s)
  | error fault => exact ⟨fault, rfl⟩

end Config

end SqlTables
