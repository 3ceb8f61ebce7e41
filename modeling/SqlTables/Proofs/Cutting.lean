import SqlTables.Proofs.Lexemes
import SqlTables.Proofs.Squeezing

/-!
# Scrubbing as a lexical specification

Three relations describe scrubbing without running it: `IsCutting` says how a text is made of
lexemes, `Emits` what lexemes leave behind one after the other, and the runs of blanks say where the
spaces are.  Each determines its result, and `scrubbed_of_unique_cutting` puts them together.
-/

set_option autoImplicit false

namespace SqlTables.Sql

open SqlTables.Text Lexeme

/-! ## Cuttings -/

/-- A text is made of the given lexemes from left to right, each standing where it may stand. -/
inductive IsCutting : List Lexeme → List Char → Prop where
  | nil : IsCutting [] []
  | cons {l : Lexeme} {ls : List Lexeme} {rest : List Char} : IsLexeme l rest →
      IsCutting ls rest → IsCutting (l :: ls) (l.text ++ rest)

/-- The lexemes of a cutting make up the text. -/
theorem IsCutting.flatMap_text {ls : List Lexeme} {s : List Char} (h : IsCutting ls s) :
    ls.flatMap text = s := by
  induction h with
  | nil => rfl
  | cons _ _ ih => rw [List.flatMap_cons, ih]

/-- A text has one cutting. -/
theorem isCutting_iff {ls : List Lexeme} {s : List Char} : IsCutting ls s ↔ ls = cut s := by
  constructor
  · intro h
    induction h with
    | nil => exact cut_nil.symm
    | cons hl _ ih => rw [cut_text_append hl, ih]
  · rintro rfl
    induction s using induction_on_cut with
    | nil => exact cut_nil ▸ .nil
    | cons l rest hl ih => exact cut_text_append hl ▸ .cons hl ih

/-! ## The choice of a lexeme -/

/-- The five kinds of lexemes. -/
inductive LexemeKind where
  | lineComment
  | blockComment
  | literal
  | quoted
  | other
deriving DecidableEq, Repr

/-- The kind of a lexeme. -/
def Lexeme.kind : Lexeme → LexemeKind
  | lineComment _ => .lineComment
  | blockComment _ => .blockComment
  | literal _ => .literal
  | quoted _ => .quoted
  | other _ => .other

/-- The kind of lexeme that begins with the given characters. -/
def kindOf : List Char → Option LexemeKind
  | [] => none
  | '-' :: '-' :: _ => some .lineComment
  | '/' :: '*' :: _ => some .blockComment
  | '\'' :: _ => some .literal
  | '"' :: _ => some .quoted
  | _ => some .other

/-- The first two characters of a text tell the kind of its first lexeme. -/
theorem kindOf_take_text_append {l : Lexeme} {rest : List Char} (h : IsLexeme l rest) :
    kindOf ((l.text ++ rest).take 2) = some l.kind := by
  cases h with
  | other hquote hdouble hdash hslash =>
    rename_i c
    cases rest with
    | nil =>
      show kindOf [c] = _
      unfold kindOf
      split <;> simp_all [kind]
    | cons d rest =>
      show kindOf [c, d] = _
      unfold kindOf
      split <;> simp_all [kind]
  | _ => rfl

/-- In a cutting, the first two characters of what is left tell the kind of the next lexeme. -/
theorem IsCutting.kindOf_take {before after : List Lexeme} {l : Lexeme} {s : List Char}
    (h : IsCutting (before ++ l :: after) s) :
    kindOf (((l :: after).flatMap text).take 2) = some l.kind := by
  induction before generalizing s with
  | nil =>
    cases h with
    | cons hl hafter =>
      rw [List.flatMap_cons, hafter.flatMap_text]
      exact kindOf_take_text_append hl
  | cons m before ih =>
    cases h with
    | cons _ hrest => exact ih hrest

/-! ## Emissions -/

/-- The last character of a text that is not blank. -/
def lastVisible (s : List Char) : Option Char := (s.filter fun c => !isBlank c).getLast?

/-- What a lexeme leaves behind the text `kept` that is left already: a comment nothing, a literal
one space, a double-quoted span one space if a comparison comes right before it and else itself,
any other character itself. -/
inductive Leaves (kept : List Char) : Lexeme → List Char → Prop where
  | lineComment (s : List Char) : Leaves kept (.lineComment s) []
  | blockComment (s : List Char) : Leaves kept (.blockComment s) []
  | literal (s : List Char) : Leaves kept (.literal s) [' ']
  | compared (s : List Char) : (∃ c ∈ lastVisible kept, c ∈ ['=', '!', '<', '>']) →
      Leaves kept (.quoted s) [' ']
  | name (s : List Char) : (∀ c ∈ lastVisible kept, c ∉ ['=', '!', '<', '>']) →
      Leaves kept (.quoted s) s
  | other (c : Char) : Leaves kept (.other c) [c]

/-- What a list of lexemes leaves behind, one after the other. -/
inductive Emits : List Lexeme → List Char → Prop where
  | nil : Emits [] []
  | concat {ls : List Lexeme} {l : Lexeme} {s t : List Char} : Emits ls s → Leaves s l t →
      Emits (ls ++ [l]) (s ++ t)

theorem lastSolid_none (s : List Char) : lastSolid none s = lastVisible s := by
  induction s using List.reverseRecOn with
  | nil => rfl
  | append_singleton s c ih =>
    rw [lastSolid_append, ih]
    by_cases hc : isBlank c = true <;> simp [lastVisible, lastSolid, hc]

theorem any_isComparison_iff {last : Option Char} :
    last.any isComparison = true ↔ ∃ c ∈ last, c ∈ ['=', '!', '<', '>'] := by
  cases last <;> simp [isComparison, or_assoc]

/-- A lexeme leaves behind what is kept of it. -/
theorem leaves_iff {kept t : List Char} {l : Lexeme} :
    Leaves kept l t ↔ t = l.kept (lastSolid none kept) := by
  rw [lastSolid_none]
  cases l with
  | quoted s =>
    rw [Lexeme.kept]
    by_cases h : (lastVisible kept).any isComparison = true
    · rw [if_pos h]
      rw [any_isComparison_iff] at h
      constructor
      · intro hleaves
        cases hleaves with
        | compared _ _ => rfl
        | name _ hno =>
          obtain ⟨c, hc, hcomparison⟩ := h
          exact absurd hcomparison (hno c hc)
      · rintro rfl
        exact .compared s h
    · rw [if_neg h]
      rw [any_isComparison_iff] at h
      constructor
      · intro hleaves
        cases hleaves with
        | compared _ hcomparison => exact absurd hcomparison h
        | name _ _ => rfl
      · rintro rfl
        exact .name _ fun c hc hcomparison => h ⟨c, hc, hcomparison⟩
  | lineComment s => exact ⟨fun h => by cases h; rfl, by rintro rfl; exact .lineComment s⟩
  | blockComment s => exact ⟨fun h => by cases h; rfl, by rintro rfl; exact .blockComment s⟩
  | literal s => exact ⟨fun h => by cases h; rfl, by rintro rfl; exact .literal s⟩
  | other c => exact ⟨fun h => by cases h; rfl, by rintro rfl; exact .other c⟩

theorem keep_concat (ls : List Lexeme) (l : Lexeme) :
    keep none (ls ++ [l]) = keep none ls ++ l.kept (lastSolid none (keep none ls)) := by
  rw [keep_append, keep, keep_nil, List.append_nil]

/-- Lexemes leave behind what is kept of them. -/
theorem emits_iff {ls : List Lexeme} {s : List Char} : Emits ls s ↔ s = keep none ls := by
  constructor
  · intro h
    induction h with
    | nil => rfl
    | concat _ hl ih =>
      subst ih
      rw [keep_concat, leaves_iff.1 hl]
  · rintro rfl
    induction ls using List.reverseRecOn with
    | nil => exact .nil
    | append_singleton ls l ih =>
      rw [keep_concat]
      exact .concat ih (leaves_iff.2 rfl)

end SqlTables.Sql

namespace SqlTables

open SqlTables.Sql SqlTables.Text

/-- A text has exactly one cutting into lexemes, in which the first two characters of what is left
tell the kind of the next lexeme; the lexemes leave exactly one text behind; and that text, with one
space in place of every run of blanks and none at its ends, is the scrubbed form. -/
theorem scrubbed_of_unique_cutting (sql : String) :
    ∃ ls, (∀ ms, IsCutting ms sql.toList ↔ ms = ls) ∧
      (∀ before l after, ls = before ++ l :: after →
        kindOf (((l :: after).flatMap Lexeme.text).take 2) = some l.kind) ∧
      ∃ kept, (∀ s, Emits ls s ↔ s = kept) ∧
        scrubbed sql = String.ofList (trim (squeeze kept)) := by
  refine ⟨Lexeme.cut sql.toList, fun _ => isCutting_iff, ?_, keep none (Lexeme.cut sql.toList),
    fun _ => emits_iff, ?_⟩
  · intro before l after hsplit
    exact (isCutting_iff.2 hsplit.symm).kindOf_take
  · rw [scrubbed, scrub, collapse_eq_trim_squeeze]

end SqlTables
