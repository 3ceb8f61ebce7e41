import SqlTables.Proofs.CleanTexts
import SqlTables.Proofs.Formatting

/-!
# Scrubbing what is scrubbed already

Of the things that scrubbing looks for a scrubbed text can only show two, a `--` and a `/*` outside
its double-quoted spans, and it shows one exactly where block comments, and nothing else, stood
between the two characters (`standsOutside_scrub_iff`).  So it can be told from a query whether a
second pass changes anything.
-/

set_option autoImplicit false

namespace SqlTables.Sql

open SqlTables.Text Lexeme

/-! ## What a scrubbed text can show -/

/-- What is kept of a text quotes names only. -/
theorem quotesNamesOnly_keep (before : Option Char) (s : List Char) :
    QuotesNamesOnly before (keep before (cut s)) := by
  have hspace {last : Option Char} {t : List Char} (h : QuotesNamesOnly last t) :
      QuotesNamesOnly last (' ' :: t) :=
    (quotesNamesOnly_cons (by decide) (by decide)).2 h
  induction s using induction_on_cut generalizing before with
  | nil => exact cut_nil ▸ quotesNamesOnly_nil before
  | cons l rest hl ih =>
    rw [keep_text_append hl]
    cases hl with
    | lineComment _ _ => exact ih before
    | blockComment _ => exact ih before
    | openComment _ => exact ih before
    | literal _ => exact hspace (ih before)
    | openLiteral => exact hspace (ih before)
    | quoted hbody =>
      rw [Lexeme.kept]
      by_cases hbefore : before.any isComparison = true
      · rw [if_pos hbefore]
        exact hspace (ih before)
      · rw [if_neg hbefore]
        exact (quotesNamesOnly_quoted_append hbody).2 ⟨by simpa using hbefore, ih _⟩
    | openQuoted hbody =>
      rw [Lexeme.kept, cut_nil, keep_nil, List.append_nil]
      by_cases hbefore : before.any isComparison = true
      · rw [if_pos hbefore]
        exact hspace (quotesNamesOnly_nil before)
      · rw [if_neg hbefore]
        exact (quotesNamesOnly_openQuoted hbody).2 (by simpa using hbefore)
    | other hquote hdouble _ _ => exact (quotesNamesOnly_cons hquote hdouble).2 (ih _)

theorem QuotesNamesOnly.collapse {s : List Char} (h : QuotesNamesOnly none s) :
    QuotesNamesOnly none (Text.collapse s) := by
  refine ⟨fun hquote => h.no_literal (hquote.of_collapse (by simp [IsSolid]; decide)), ?_⟩
  intro a b hsplit heven
  have hword : Text.collapse s = a ++ ['"'] ++ b := by rw [hsplit, List.append_cons]
  obtain ⟨a', b', rfl, hsolids⟩ := exists_of_collapse_eq_append hword (by simp [IsSolid]; decide)
  have hlast : lastSolid none a = lastSolid none a' := by
    rw [lastSolid_none, lastSolid_none]
    exact congrArg List.getLast? hsolids.symm
  rw [hlast]
  refine h.name a' b' (List.append_cons a' '"' b').symm ?_
  rwa [← count_solids (by decide), hsolids, count_solids (by decide)]

/-- A scrubbed text quotes names only. -/
theorem quotesNamesOnly_scrub (s : List Char) : QuotesNamesOnly none (scrub s) :=
  (quotesNamesOnly_keep none s).collapse

/-- Scrubbing a scrubbed text changes nothing if it shows no mark of a comment. -/
theorem scrub_scrub_eq_self_iff (s : List Char) : scrub (scrub s) = scrub s ↔
    ¬ StandsOutside ['-', '-'] (scrub s) ∧ ¬ StandsOutside ['/', '*'] (scrub s) := by
  rw [scrub_eq_self_iff]
  constructor
  · rintro ⟨_, hclean⟩
    exact ⟨hclean.no_line_comment, hclean.no_block_comment⟩
  · rintro ⟨hline, hblock⟩
    exact ⟨isCollapsed_collapse _, quotesNamesOnly_scrub s, hline, hblock⟩

/-! ## Characters that meet across comments -/

/-- Block comments, at least one and nothing else, stand between two characters `p` and `q` of a
text that are neither part of a comment or a literal nor quoted. -/
def MeetAcrossComments (p q : Char) (s : List Char) : Prop :=
  ∃ before comments after, IsCutting (before ++ other p :: (comments ++ other q :: after)) s ∧
    comments ≠ [] ∧ ∀ l ∈ comments, l.kind = .blockComment

theorem MeetAcrossComments.text_append {p q : Char} {l : Lexeme} {rest : List Char}
    (h : MeetAcrossComments p q rest) (hl : IsLexeme l rest) :
    MeetAcrossComments p q (l.text ++ rest) := by
  obtain ⟨before, comments, after, hcut, hcomments⟩ := h
  exact ⟨l :: before, comments, after, .cons hl hcut, hcomments⟩

/-- The first character kept of a text, if it is neither blank nor a double quote, stands in it
behind block comments only. -/
theorem exists_of_head?_keep {q : Char} (hq : isBlank q = false) (hdouble : q ≠ '"')
    {before : Option Char} {s : List Char} (h : q ∈ (keep before (cut s)).head?) :
    ∃ comments after, IsCutting (comments ++ other q :: after) s ∧
      ∀ l ∈ comments, l.kind = .blockComment := by
  have hblank {c : Char} (hc : isBlank c = true) {t : List Char} : q ∉ (c :: t).head? := by
    rintro hmem
    obtain rfl := Option.some.inj hmem
    exact absurd hc (by simp [hq])
  have hspace {t : List Char} : q ∉ (' ' :: t).head? := hblank isBlank_space
  have hname {t : List Char} : q ∉ ('"' :: t).head? := fun hmem =>
    hdouble (Option.some.inj hmem).symm
  have hspan {b : Option Char} {t u : List Char} : q ∉ ((quoted ('"' :: t)).kept b ++ u).head? := by
    rw [Lexeme.kept]
    split
    · exact hspace
    · exact hname
  induction s using induction_on_cut generalizing before with
  | nil => simp [cut_nil] at h
  | cons l rest hl ih =>
    rw [keep_text_append hl] at h
    cases hl with
    | @lineComment _ rest hbody hrest =>
      -- a line comment ends with its line
      exfalso
      cases rest with
      | nil => simp [cut_nil, Lexeme.kept] at h
      | cons c rest =>
        obtain rfl : c = '\n' := hrest c (by simp)
        rw [keep_blank_cons (by decide)] at h
        exact hblank (by decide) h
    | blockComment hbody =>
      obtain ⟨comments, after, hcut, hcomments⟩ := ih h
      exact ⟨_ :: comments, after, .cons (.blockComment hbody) hcut,
        List.forall_mem_cons.2 ⟨rfl, hcomments⟩⟩
    | openComment hbody => simp [cut_nil, Lexeme.kept] at h
    | literal _ => exact absurd h hspace
    | openLiteral => exact absurd h hspace
    | quoted _ => exact absurd h hspan
    | openQuoted _ => exact absurd h hspan
    | @other c _ hquote hdouble hdash hslash =>
      obtain rfl := Option.some.inj h
      have hother : IsLexeme (other c) rest := .other hquote hdouble hdash hslash
      exact ⟨[], cut rest, .cons hother (isCutting_iff.2 rfl), by simp⟩

/-- Two characters that no lexeme would show side by side, and that stand so in what is kept of a
text, have met across block comments. -/
theorem meetAcrossComments_of_keep {p q : Char} (hp : IsSolid [p, q]) (hmark : '"' ∉ [p, q])
    (hapart : ∀ rest, IsLexeme (other p) rest → q ∉ rest.head?) {before : Option Char}
    {s : List Char} (h : StandsOutside [p, q] (keep before (cut s))) :
    MeetAcrossComments p q s := by
  obtain ⟨hsolid, hq⟩ := isSolid_cons.1 hp
  have hspace {t : List Char} (h : StandsOutside [p, q] (' ' :: t)) : StandsOutside [p, q] t := by
    refine ((standsOutside_pair_cons (by decide)).1 h).resolve_left ?_
    rintro ⟨rfl, _⟩
    exact absurd hsolid (by decide)
  have hdouble : ∀ c ∈ [p, q].head?, c ≠ '"' := by
    rintro c hc rfl
    exact hmark (List.mem_of_mem_head? hc)
  induction s using induction_on_cut generalizing before with
  | nil => exact absurd (cut_nil ▸ h) (not_standsOutside_nil (by simp))
  | cons l rest hl ih =>
    rw [keep_text_append hl] at h
    have hlater (h : MeetAcrossComments p q rest) : MeetAcrossComments p q (l.text ++ rest) :=
      h.text_append hl
    cases hl with
    | lineComment _ _ => exact hlater (ih h)
    | blockComment _ => exact hlater (ih h)
    | openComment _ => exact hlater (ih h)
    | literal _ => exact hlater (ih (hspace h))
    | openLiteral => exact hlater (ih (hspace h))
    | quoted hbody =>
      rw [Lexeme.kept] at h
      split at h
      · exact hlater (ih (hspace h))
      · exact hlater (ih ((standsOutside_quoted_append hbody hdouble (by simp)).1 h))
    | openQuoted hbody =>
      rw [Lexeme.kept, cut_nil, keep_nil, List.append_nil] at h
      split at h
      · exact absurd (hspace h) (not_standsOutside_nil (by simp))
      · exact absurd h (not_standsOutside_openQuoted hbody hdouble (by simp))
    | @other c _ hquote hne hdash hslash =>
      rcases (standsOutside_pair_cons hne).1 h with ⟨rfl, hhead⟩ | hrest
      · obtain ⟨comments, after, hcut, hcomments⟩ :=
          exists_of_head?_keep (hq q (by simp)) (fun heq => hmark (by simp [heq])) hhead
        have hother : IsLexeme (other c) rest := .other hquote hne hdash hslash
        refine ⟨[], comments, after, .cons hother hcut, ?_, hcomments⟩
        rintro rfl
        refine hapart rest hother ?_
        rw [← hcut.flatMap_text]
        rfl
      · exact hlater (ih hrest)

/-! ## What has met shows -/

/-- What is kept of a lexeme with something after it closes the double-quoted spans it opens. -/
theorem even_count_kept {l : Lexeme} {rest : List Char} (hl : IsLexeme l rest) (hrest : rest ≠ [])
    (before : Option Char) : Even ((l.kept before).count '"') := by
  cases hl with
  | lineComment _ _ => exact Even.zero
  | blockComment _ => exact Even.zero
  | literal _ => exact Even.zero
  | quoted hbody =>
    rw [Lexeme.kept]
    split
    · exact Even.zero
    · rw [count_quoted hbody]
      decide
  | other _ hdouble _ _ =>
    rw [Lexeme.kept, List.count_singleton, if_neg (by simpa using hdouble)]
    exact Even.zero
  | _ => exact absurd rfl hrest

theorem even_count_keep {ls after : List Lexeme} {l : Lexeme} {s : List Char}
    (h : IsCutting (ls ++ l :: after) s) (before : Option Char) :
    Even ((keep before ls).count '"') := by
  induction ls generalizing s before with
  | nil => exact Even.zero
  | cons m ls ih =>
    cases h with
    | @cons _ _ rest hm hcut =>
      have hrest : rest ≠ [] := by
        rintro rfl
        have hnil := isCutting_iff.1 hcut
        rw [cut_nil] at hnil
        exact absurd hnil (by simp)
      rw [keep, List.count_append]
      exact (even_count_kept hm hrest before).add (ih hcut _)

theorem keep_comments_append {comments : List Lexeme}
    (h : ∀ l ∈ comments, l.kind = .blockComment) (before : Option Char) (ls : List Lexeme) :
    keep before (comments ++ ls) = keep before ls := by
  induction comments with
  | nil => rfl
  | cons l comments ih =>
    obtain ⟨hl, hcomments⟩ := List.forall_mem_cons.1 h
    cases l with
    | blockComment t => exact ih hcomments
    | _ => cases hl

/-- Characters that meet across comments stand side by side in the scrubbed text. -/
theorem MeetAcrossComments.scrub {p q : Char} {s : List Char} (h : MeetAcrossComments p q s)
    (hp : IsSolid [p, q]) : StandsOutside [p, q] (Sql.scrub s) := by
  obtain ⟨ls, comments, after, hcut, -, hcomments⟩ := h
  have hkeep : ∃ b, keep none (cut s) = keep none ls ++ [p, q] ++ b := by
    rw [← isCutting_iff.1 hcut, keep_append, keep, keep_comments_append hcomments, keep]
    simp only [Lexeme.kept, List.append_assoc, List.cons_append, List.nil_append]
    exact ⟨_, rfl⟩
  obtain ⟨b, hb⟩ := hkeep
  have houtside : StandsOutside [p, q] (keep none (cut s)) :=
    ⟨keep none ls, b, hb, even_count_keep hcut none⟩
  exact houtside.collapse hp (by simp)

/-- Two such characters stand side by side in a scrubbed text exactly if they met so. -/
theorem standsOutside_scrub_iff {p q : Char} (hp : IsSolid [p, q]) (hmark : '"' ∉ [p, q])
    (hapart : ∀ rest, IsLexeme (other p) rest → q ∉ rest.head?) {s : List Char} :
    StandsOutside [p, q] (scrub s) ↔ MeetAcrossComments p q s := by
  constructor
  · intro h
    exact meetAcrossComments_of_keep hp hmark hapart (h.of_collapse hp)
  · intro h
    exact h.scrub hp

theorem standsOutside_dashes_scrub_iff {s : List Char} :
    StandsOutside ['-', '-'] (scrub s) ↔ MeetAcrossComments '-' '-' s := by
  refine standsOutside_scrub_iff (by simp [IsSolid]; decide) (by decide) ?_
  intro rest hl hmem
  cases hl with
  | other _ _ hdash _ => exact hdash rfl _ hmem rfl

theorem standsOutside_slashStar_scrub_iff {s : List Char} :
    StandsOutside ['/', '*'] (scrub s) ↔ MeetAcrossComments '/' '*' s := by
  refine standsOutside_scrub_iff (by simp [IsSolid]; decide) (by decide) ?_
  intro rest hl hmem
  cases hl with
  | other _ _ _ hslash => exact hslash rfl _ hmem rfl

end SqlTables.Sql

namespace SqlTables

open SqlTables.Sql SqlTables.Text

/-- Exactly when scrubbing is idempotent.  A scrubbed text has its blanks in order and shows single
quotes only inside double-quoted spans; scrubbing it again changes nothing exactly if no mark of a
comment stands outside those spans; and such a mark stands there exactly if its two characters met
across block comments. -/
theorem scrubbed_scrubbed_eq_self_iff (sql : String) :
    IsCollapsed (scrubbed sql).toList ∧
      ¬ StandsOutside ['\''] (scrubbed sql).toList ∧
      (scrubbed (scrubbed sql) = scrubbed sql ↔
        ¬ StandsOutside ['-', '-'] (scrubbed sql).toList ∧
          ¬ StandsOutside ['/', '*'] (scrubbed sql).toList) ∧
      (StandsOutside ['-', '-'] (scrubbed sql).toList ↔ MeetAcrossComments '-' '-' sql.toList) ∧
      (StandsOutside ['/', '*'] (scrubbed sql).toList ↔ MeetAcrossComments '/' '*' sql.toList) := by
  have htext : (scrubbed sql).toList = scrub sql.toList := String.toList_ofList
  have hagain : scrubbed (scrubbed sql) = scrubbed sql ↔
      scrub (scrub sql.toList) = scrub sql.toList := by
    rw [scrubbed, htext, scrubbed, String.ofList_inj]
  rw [hagain, htext]
  exact ⟨isCollapsed_collapse _, (quotesNamesOnly_scrub _).no_literal, scrub_scrub_eq_self_iff _,
    standsOutside_dashes_scrub_iff, standsOutside_slashStar_scrub_iff⟩

-- the dashes meet in the first pass and begin a comment in the second
example : scrubbed "1 -/**/- 2" = "1 -- 2" ∧ scrubbed "1 -- 2" = "1" := by decide +kernel

end SqlTables
