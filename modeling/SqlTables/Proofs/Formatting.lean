import SqlTables.Extraction
import SqlTables.Proofs.Lexemes

/-!
# What formatting, comments and literals do not change

Two queries that differ in the blanks and comments between two of their parts, in the body of a
literal, or in the body of a double-quoted span after a comparison have the same scrubbed form, and
so the same tables.  `Reformats` says which exchanges are meant, `scrub_eq_of_reformats` that they
do not show.
-/

set_option autoImplicit false

namespace SqlTables.Sql

open SqlTables.Text Lexeme

/-! ## What stands between two parts of a query -/

/-- A sequence of blanks, closed block comments and line comments with their newlines. -/
inductive IsFiller : List Char → Prop where
  | nil : IsFiller []
  | blank {c : Char} {s : List Char} : isBlank c = true → IsFiller s → IsFiller (c :: s)
  | blockComment {body s : List Char} : NoCommentEnd body → IsFiller s →
      IsFiller ('/' :: '*' :: (body ++ '*' :: '/' :: s))
  | lineComment {body s : List Char} : '\n' ∉ body → IsFiller s →
      IsFiller ('-' :: '-' :: (body ++ '\n' :: s))

/-- A filler that begins with a blank. -/
def IsSeparator (s : List Char) : Prop := IsFiller s ∧ ∃ c ∈ s.head?, isBlank c = true

/-- A literal with the given body, its single quotes written twice. -/
def literalText (body : List Char) : List Char := '\'' :: (doubled body ++ ['\''])

/-- A double-quoted span with the given body. -/
def quotedText (body : List Char) : List Char := '"' :: (body ++ ['"'])

/-- One exchange that is a matter of formatting or of literals only, behind a text that ends
outside comments, literals and quoted spans. -/
inductive Reformats : List Char → List Char → Prop where
  /-- One separator for another. -/
  | separator {a b s t : List Char} : EndsAtTop a → IsSeparator s → IsSeparator t →
      Reformats (a ++ s ++ b) (a ++ t ++ b)
  /-- One literal for another, when no further single quote follows. -/
  | literal {a b : List Char} (c d : List Char) : EndsAtTop a → (∀ q ∈ b.head?, q ≠ '\'') →
      Reformats (a ++ literalText c ++ b) (a ++ literalText d ++ b)
  /-- One double-quoted span for another, after a comparison. -/
  | compared {a b c d : List Char} : EndsAtTop a →
      (∃ q ∈ lastSolid none (keep none (cut a)), isComparison q = true) → '"' ∉ c → '"' ∉ d →
      Reformats (a ++ quotedText c ++ b) (a ++ quotedText d ++ b)

/-! ## Blanks as lexemes -/

theorem isLexeme_blank {c : Char} (h : isBlank c = true) (rest : List Char) :
    IsLexeme (other c) rest := by
  refine .other ?_ ?_ ?_ ?_ <;> rintro rfl <;> exact absurd h (by decide)

theorem lastSolid_of_isGap {g : List Char} (h : IsGap g) (before : Option Char) :
    lastSolid before g = before := by
  induction g with
  | nil => rfl
  | cons c g ih =>
    have hc : isBlank c = true := h c (by simp)
    rw [lastSolid, List.foldl_cons, if_pos hc]
    exact ih fun d hd => h d (List.mem_cons_of_mem c hd)

theorem keep_blank_cons {c : Char} (h : isBlank c = true) (before : Option Char) (s : List Char) :
    keep before (cut (c :: s)) = c :: keep before (cut s) := by
  have hcut : cut (c :: s) = other c :: cut s := cut_text_append (isLexeme_blank h s)
  have hlast : lastSolid before [c] = before := lastSolid_of_isGap (by simpa [IsGap] using h) before
  rw [hcut, keep, Lexeme.kept, hlast]
  rfl

/-- A filler leaves a gap behind, whatever stands around it. -/
theorem exists_gap_of_isFiller {s : List Char} (h : IsFiller s) :
    ∃ g, IsGap g ∧ ∀ before b, keep before (cut (s ++ b)) = g ++ keep before (cut b) := by
  induction h with
  | nil => exact ⟨[], by simp [IsGap], fun _ _ => rfl⟩
  | @blank c s hc _ ih =>
    obtain ⟨g, hg, hkeep⟩ := ih
    refine ⟨c :: g, List.forall_mem_cons.2 ⟨hc, hg⟩, fun before b => ?_⟩
    rw [List.cons_append, keep_blank_cons hc, hkeep, List.cons_append]
  | @blockComment body s hbody _ ih =>
    obtain ⟨g, hg, hkeep⟩ := ih
    refine ⟨g, hg, fun before b => ?_⟩
    have hl : IsLexeme (.blockComment ('/' :: '*' :: (body ++ ['*', '/']))) (s ++ b) :=
      .blockComment hbody
    have hcut := cut_text_append hl
    simp only [Lexeme.text, List.cons_append, List.append_assoc, List.nil_append] at hcut ⊢
    rw [hcut, keep, Lexeme.kept, List.nil_append]
    exact hkeep before b
  | @lineComment body s hbody _ ih =>
    obtain ⟨g, hg, hkeep⟩ := ih
    have hnewline : isBlank '\n' = true := by decide
    refine ⟨'\n' :: g, List.forall_mem_cons.2 ⟨hnewline, hg⟩, fun before b => ?_⟩
    have hl : IsLexeme (.lineComment ('-' :: '-' :: body)) ('\n' :: (s ++ b)) :=
      .lineComment hbody (by simp)
    have hcut := cut_text_append hl
    simp only [Lexeme.text, List.cons_append, List.append_assoc] at hcut ⊢
    rw [hcut, keep, Lexeme.kept, List.nil_append]
    exact (keep_blank_cons hnewline before (s ++ b)).trans (by rw [hkeep])

/-- A separator leaves a gap behind that is not empty. -/
theorem exists_gap_of_isSeparator {s : List Char} (h : IsSeparator s) :
    ∃ g, g ≠ [] ∧ IsGap g ∧ ∀ before b, keep before (cut (s ++ b)) = g ++ keep before (cut b) := by
  obtain ⟨hs, c, hc, hblank⟩ := h
  cases hs with
  | nil => simp at hc
  | @blank d s hd hs =>
    obtain ⟨g, hg, hkeep⟩ := exists_gap_of_isFiller hs
    refine ⟨d :: g, by simp, List.forall_mem_cons.2 ⟨hd, hg⟩, fun before b => ?_⟩
    rw [List.cons_append, keep_blank_cons hd, hkeep, List.cons_append]
  | blockComment _ _ =>
    obtain rfl : '/' = c := by simpa using hc
    exact absurd hblank (by decide)
  | lineComment _ _ =>
    obtain rfl : '-' = c := by simpa using hc
    exact absurd hblank (by decide)

theorem keep_append_separator {a s : List Char} (ha : EndsAtTop a) (hs : IsSeparator s)
    (b : List Char) : ∃ g, g ≠ [] ∧ IsGap g ∧ scrub (a ++ s ++ b) =
      collapse (keep none (cut a) ++ g ++ keep (lastSolid none (keep none (cut a))) (cut b)) := by
  obtain ⟨g, hne, hg, hkeep⟩ := exists_gap_of_isSeparator hs
  refine ⟨g, hne, hg, ?_⟩
  have hstop : StopsBefore (s ++ b) a := by
    refine ha.stopsBefore fun d hd => ?_
    obtain ⟨_, c, hc, hblank⟩ := hs
    obtain ⟨t, rfl⟩ := List.head?_eq_some_iff.1 hc
    obtain rfl : c = d := by simpa using hd
    refine ⟨?_, ?_, ?_⟩ <;> rintro rfl <;> exact absurd hblank (by decide)
  rw [scrub, List.append_assoc, cut_append hstop, keep_append, hkeep, List.append_assoc]

/-! ## Literals -/

/-- Behind a text that ends outside comments, literals and quoted spans, a literal is one lexeme,
together with a literal that ends there; what stands before it does not depend on its body. -/
theorem exists_cut_append_literal {a b : List Char} (ha : EndsAtTop a)
    (hb : ∀ q ∈ b.head?, q ≠ '\'') :
    ∃ ls, ∀ c, ∃ s, cut (a ++ literalText c ++ b) = ls ++ literal s :: cut b := by
  have hliteral (c : List Char) : cut (literalText c ++ b) = literal (literalText c) :: cut b :=
    cut_text_append (IsLexeme.literal hb)
  induction a using induction_on_cut with
  | nil => exact ⟨[], fun c => ⟨literalText c, hliteral c⟩⟩
  | cons l rest hl ih =>
    obtain ⟨hend, hrest⟩ := (endsAtTop_text_append hl).1 ha
    by_cases hmerge : rest = [] ∧ ∃ s, l = literal s
    · obtain ⟨rfl, s, rfl⟩ := hmerge
      obtain ⟨body, rfl⟩ : ∃ body, s = literalText body := by
        cases hend rfl
        exact ⟨_, rfl⟩
      -- the closing quote and the opening quote make a pair
      refine ⟨[], fun c => ⟨literalText (body ++ '\'' :: c), ?_⟩⟩
      rw [← hliteral]
      simp [Lexeme.text, literalText, doubled_append, doubled_quote]
    · obtain ⟨ls, hls⟩ := ih hrest
      refine ⟨l :: ls, fun c => ?_⟩
      obtain ⟨s, hs⟩ := hls c
      have hnext : IsLexeme l (rest ++ (literalText c ++ b)) := by
        refine hl.append fun hnil => (hend hnil).isLexeme ?_
        intro d hd hgoes
        obtain rfl : '\'' = d := by simpa [literalText] using hd
        cases l with
        | literal s => exact hmerge ⟨hnil, s, rfl⟩
        | other c => simp [GoesOn] at hgoes
        | _ => exact hgoes
      refine ⟨s, ?_⟩
      rw [List.append_assoc, List.append_assoc, cut_text_append hnext, ← List.append_assoc, hs,
        List.cons_append]

/-- The body of a literal does not show in the scrubbed form. -/
theorem scrub_append_literal {a b : List Char} (ha : EndsAtTop a) (hb : ∀ q ∈ b.head?, q ≠ '\'')
    (c d : List Char) : scrub (a ++ literalText c ++ b) = scrub (a ++ literalText d ++ b) := by
  obtain ⟨ls, hls⟩ := exists_cut_append_literal ha hb
  obtain ⟨s, hs⟩ := hls c
  obtain ⟨t, ht⟩ := hls d
  rw [scrub, scrub, hs, ht, keep_append, keep_append]
  rfl

/-! ## Double-quoted spans after a comparison -/

theorem keep_append_compared {a b c : List Char} (ha : EndsAtTop a)
    (hlast : ∃ q ∈ lastSolid none (keep none (cut a)), isComparison q = true) (hc : '"' ∉ c) :
    keep none (cut (a ++ quotedText c ++ b)) =
      keep none (cut a) ++ ' ' :: keep (lastSolid none (keep none (cut a))) (cut b) := by
  have hstop : StopsBefore (quotedText c ++ b) a := by
    refine ha.stopsBefore fun d hd => ?_
    obtain rfl : '"' = d := by simpa [quotedText] using hd
    decide
  have hcut : cut (quotedText c ++ b) = quoted (quotedText c) :: cut b :=
    cut_text_append (IsLexeme.quoted hc)
  obtain ⟨q, hq, hcomparison⟩ := hlast
  have hkept : (quoted (quotedText c)).kept (lastSolid none (keep none (cut a))) = [' '] := by
    simp [Lexeme.kept, Option.mem_def.1 hq, hcomparison]
  have hspace (before : Option Char) : lastSolid before [' '] = before :=
    lastSolid_of_isGap (by simp [IsGap]) before
  rw [List.append_assoc, cut_append hstop, hcut, keep_append, keep, hkept, hspace]
  rfl

/-! ## The exchanges do not show -/

/-- Reformatting keeps the scrubbed form. -/
theorem scrub_eq_of_reformats {s t : List Char} (h : Reformats s t) : scrub s = scrub t := by
  cases h with
  | @separator a b s t ha hs ht =>
    obtain ⟨g, hne, hg, hscrub⟩ := keep_append_separator ha hs b
    obtain ⟨g', hne', hg', hscrub'⟩ := keep_append_separator ha ht b
    rw [hscrub, hscrub', collapse_append_gap_congr hne hg hne' hg']
  | literal c d ha hb => exact scrub_append_literal ha hb c d
  | compared ha hlast hc hd =>
    rw [scrub, scrub, keep_append_compared ha hlast hc, keep_append_compared ha hlast hd]

end SqlTables.Sql

namespace SqlTables

open SqlTables.Sql SqlTables.Text

/-- The tables of a query depend on its scrubbed form only. -/
theorem Extractor.extract_congr (x : Extractor) {s t : List Char} (h : scrub s = scrub t) :
    x.extract (String.ofList s) = x.extract (String.ofList t) := by
  have hcaptures : x.capturesIn (String.ofList s) = x.capturesIn (String.ofList t) := by
    rw [capturesIn, capturesIn, String.toList_ofList, String.toList_ofList, h]
  simp only [extract, namesIn, hcaptures]

/-- Exchanging separators, bodies of literals, or bodies of compared double-quoted spans changes
neither the scrubbed form of a query nor, for any extractor, the tables it names. -/
theorem extract_eq_of_reformats {s t : List Char} (h : Reformats s t) :
    scrub s = scrub t ∧
      ∀ x : Extractor, x.extract (String.ofList s) = x.extract (String.ofList t) :=
  ⟨scrub_eq_of_reformats h, fun x => x.extract_congr (scrub_eq_of_reformats h)⟩

/-- A keyword and an unclosed quote inside comments do not count. -/
theorem extract_eq_of_reformats_comments :
    Reformats ("FROM".toList ++ " ".toList ++ "t".toList)
        ("FROM".toList ++ "\n/*'FROM*/--\"\n".toList ++ "t".toList) ∧
      scrub ("FROM".toList ++ " ".toList ++ "t".toList) =
        scrub ("FROM".toList ++ "\n/*'FROM*/--\"\n".toList ++ "t".toList) ∧
      ∀ x : Extractor, x.extract (String.ofList ("FROM".toList ++ " ".toList ++ "t".toList)) =
        x.extract (String.ofList ("FROM".toList ++ "\n/*'FROM*/--\"\n".toList ++ "t".toList)) := by
  have hspace : IsFiller " ".toList := .blank isBlank_space .nil
  have hcomments : IsFiller ('\n' :: '/' :: '*' :: ("'FROM".toList ++ '*' :: '/' ::
      '-' :: '-' :: (['"'] ++ ['\n']))) :=
    .blank (by decide) (.blockComment (by unfold NoCommentEnd; decide)
      (.lineComment (by decide) .nil))
  have h : Reformats ("FROM".toList ++ " ".toList ++ "t".toList)
      ("FROM".toList ++ "\n/*'FROM*/--\"\n".toList ++ "t".toList) :=
    .separator (Lexeme.Unmarked.endsAtTop (by decide) (by decide))
      ⟨hspace, ' ', rfl, isBlank_space⟩ ⟨hcomments, '\n', rfl, by decide⟩
  exact ⟨h, extract_eq_of_reformats h⟩

end SqlTables
